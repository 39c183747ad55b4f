import ScriptCheck.Proofs.Token.Munch
import Mathlib.Data.List.Chain

/-!
# The tokens of a script are its only longest tokenization

A script is cut into pieces at its tokens (`slices?`). The rules that such pieces follow are said of
kinds and characters alone:

* `Piece.WellFormed` — how a piece of each kind is written
* `Piece.Merges` — which neighbours would be one longer piece, or other pieces
* `Tokenizes` — the pieces are well formed, no neighbours merge, and they make up the text
* `tokenizes_iff_slices` — exactly one row of pieces does that, and it is the one at the tokens
-/

namespace ScriptCheck

open Text

/-! ## Pieces -/

/-- A stretch of a script: the kind of its token, and how it is written. -/
structure Piece where
  kind : TokenKind
  raw : List Char
  deriving DecidableEq, Repr

/-- What can stand inside a string between such quotes: characters that are neither the quote nor a
backslash, and pairs of a backslash and a character. No line ends inside a string. -/
inductive StringInside (quote : Char) : List Char → Prop
  | nil : StringInside quote []
  | plain {c : Char} {cs : List Char} (hl : isLineEnd c = false) (hq : c ≠ quote) (hb : c ≠ '\\')
      (hcs : StringInside quote cs) : StringInside quote (c :: cs)
  | escaped {c : Char} {cs : List Char} (hl : isLineEnd c = false)
      (hcs : StringInside quote cs) : StringInside quote ('\\' :: c :: cs)

/-- A string without a closing quote. A backslash at its end has nothing to escape. -/
inductive OpenString : List Char → Prop
  | plain {quote : Char} {cs : List Char} (hq : IsQuote quote) (hcs : StringInside quote cs) :
      OpenString (quote :: cs)
  | backslash {quote : Char} {cs : List Char} (hq : IsQuote quote)
      (hcs : StringInside quote cs) : OpenString (quote :: cs ++ ['\\'])

namespace Piece

/-- How a piece of each kind is written. -/
inductive WellFormed : Piece → Prop
  | keyword (word : Keyword) : WellFormed ⟨.keyword word, word.spelling.toList⟩
  | identifier {c : Char} {cs : List Char} (hc : isWordStart c = true)
      (hcs : ∀ d ∈ cs, isWordPart d = true)
      (hword : ∀ word : Keyword, word.spelling.toList ≠ c :: cs) :
      WellFormed ⟨.identifier, c :: cs⟩
  | number {c : Char} {cs : List Char} (h : ∀ d ∈ c :: cs, d.isDigit = true) :
      WellFormed ⟨.number, c :: cs⟩
  | whitespace {c : Char} {cs : List Char} (h : ∀ d ∈ c :: cs, isInlineBlank d = true) :
      WellFormed ⟨.whitespace, c :: cs⟩
  | newline {cs : List Char}
      (h : cs ∈ [['\n'], ['\r'], ['\r', '\n'], ['\u2028'], ['\u2029']]) : WellFormed ⟨.newline, cs⟩
  | equals : WellFormed ⟨.equals, ['=']⟩
  | colon : WellFormed ⟨.colon, [':']⟩
  | semicolon : WellFormed ⟨.semicolon, [';']⟩
  | closedString {quote : Char} {cs : List Char} (hq : IsQuote quote)
      (hcs : StringInside quote cs) : WellFormed ⟨.string, quote :: cs ++ [quote]⟩
  | openString {cs : List Char} (h : OpenString cs) : WellFormed ⟨.string, cs⟩
  | unknown {c : Char} (hb : isBlank c = false) (hm : c ∉ ['=', ':', ';', '"', '\''])
      (hd : c.isDigit = false) (hw : isWordStart c = false) : WellFormed ⟨.unknown, [c]⟩

/-- Whether a piece is a word: a keyword or an identifier. -/
def IsWord (p : Piece) : Prop := p.kind.isKeyword = true ∨ p.kind = .identifier

instance (p : Piece) : Decidable p.IsWord := inferInstanceAs (Decidable (_ ∨ _))

/-- Whether the neighbours would be one longer piece, or other pieces: blanks behind blanks, a word
or a number behind a word, a number behind a number, the two characters of one line end, and
anything but a line end behind a string without a closing quote. -/
def Merges (p q : Piece) : Prop :=
  p.kind = .whitespace ∧ q.kind = .whitespace ∨
  p.IsWord ∧ (q.IsWord ∨ q.kind = .number) ∨
  p.kind = .number ∧ q.kind = .number ∨
  (p.kind = .newline ∧ p.raw = ['\r']) ∧ q.kind = .newline ∧ q.raw = ['\n'] ∨
  p.kind = .string ∧ OpenString p.raw ∧ q.kind ≠ .newline

end Piece

/-- Whether the pieces make up a text by the rules. -/
structure Tokenizes (source : List Char) (pieces : List Piece) : Prop where
  joined : pieces.flatMap Piece.raw = source
  ne_nil : ∀ p ∈ pieces, p.raw ≠ []
  wellFormed : ∀ p ∈ pieces, p.WellFormed
  apart : pieces.IsChain fun p q => ¬ p.Merges q

/-- The characters from a byte offset on, up to another one, if no character lies across one of
them. -/
def charsBetween? (cs : List Char) (i j : Nat) : Option (List Char) := do
  let before ← takeBytes? cs i
  let upTo ← takeBytes? cs j
  return upTo.drop before.length

/-- The pieces of a script at its tokens: each one goes on to the next token, and the last one to
the end. -/
def slices? (source : String) : List Token → Option (List Piece)
  | [] => some []
  | t :: ts => do
    let behind := (ts.head?.map Token.pos).getD source.utf8ByteSize
    let raw ← charsBetween? source.toList t.pos behind
    let pieces ← slices? source ts
    return ⟨t.kind, raw⟩ :: pieces

/-! ## Pieces and lexemes -/

theorem StringInside.of_fits {quote : Char} {es : List StringElement}
    (h : ∀ e ∈ es, e.Fits quote) : StringInside quote (es.flatMap StringElement.raw) := by
  induction es with
  | nil => exact .nil
  | cons e es ih =>
    have hes := ih fun e' he' => h e' (List.mem_cons_of_mem e he')
    have he := h e List.mem_cons_self
    rw [List.flatMap_cons]
    cases e with
    | plain c => exact .plain he.1 he.2.1 he.2.2 hes
    | escape e => exact .escaped e.isLineEnd_letter hes
    | unknown c => exact .escaped he.2 hes
    | trailing => exact he.elim

theorem StringInside.exists_fits {quote : Char} {cs : List Char} (h : StringInside quote cs) :
    ∃ es : List StringElement, (∀ e ∈ es, e.Fits quote) ∧ es.flatMap StringElement.raw = cs := by
  induction h with
  | nil => exact ⟨[], by simp, rfl⟩
  | @plain c cs hl hq hb _ ih =>
    obtain ⟨es, hes, rfl⟩ := ih
    refine ⟨.plain c :: es, ?_, rfl⟩
    rintro e (_ | ⟨_, he⟩)
    · exact ⟨hl, hq, hb⟩
    · exact hes e he
  | @escaped c cs hl _ ih =>
    obtain ⟨es, hes, rfl⟩ := ih
    refine ⟨.ofEscaped c :: es, ?_, by simp⟩
    rintro e (_ | ⟨_, he⟩)
    · exact StringElement.fits_ofEscaped hl
    · exact hes e he

namespace Lexeme

/-- The kind of a lexeme's token, and how the lexeme is written. -/
def piece (l : Lexeme) : Piece := ⟨l.kind, l.raw⟩

/-- A lexeme is known by how it is written. -/
theorem eq_of_raw_eq {l m : Lexeme} (hl : l.WellFormed) (hm : m.WellFormed)
    (h : l.raw = m.raw) : l = m := by
  obtain ⟨c, cs, hraw⟩ := List.exists_cons_of_ne_nil hl.raw_ne_nil
  have h₁ := split_eq hl l.stops_nil hraw
  have h₂ := split_eq hm m.stops_nil (h ▸ hraw)
  rw [h₁] at h₂
  exact congrArg Prod.fst h₂

theorem openString_raw {quote : Char} {body : List StringElement}
    (h : (string quote body false).WellFormed) : OpenString (string quote body false).raw := by
  obtain ⟨hq, es, hes, hbody⟩ := h
  have hin := StringInside.of_fits hes
  rcases hbody with rfl | ⟨-, rfl⟩
  · simpa [raw] using OpenString.plain hq hin
  · simpa [raw] using OpenString.backslash hq hin

theorem exists_of_openString {cs : List Char} (h : OpenString cs) :
    ∃ quote body, (string quote body false).WellFormed ∧ (string quote body false).raw = cs := by
  cases h with
  | @plain quote cs hq hcs =>
    obtain ⟨es, hes, rfl⟩ := hcs.exists_fits
    exact ⟨quote, es, ⟨hq, es, hes, .inl rfl⟩, by simp [raw]⟩
  | @backslash quote cs hq hcs =>
    obtain ⟨es, hes, rfl⟩ := hcs.exists_fits
    exact ⟨quote, es ++ [.trailing], ⟨hq, es, hes, .inr ⟨rfl, rfl⟩⟩, by simp [raw]⟩

/-- A string is open at its end exactly if no quote closes it. -/
theorem openString_raw_iff {quote : Char} {body : List StringElement} {closed : Bool}
    (h : (string quote body closed).WellFormed) :
    OpenString (string quote body closed).raw ↔ closed = false := by
  constructor
  · intro ho
    obtain ⟨quote', body', hl, hraw⟩ := exists_of_openString ho
    have := eq_of_raw_eq hl h hraw
    simp only [string.injEq] at this
    exact this.2.2.symm
  · rintro rfl
    exact openString_raw h

theorem spelling_of_ofSpelling? {s : String} {word : Keyword}
    (h : Keyword.ofSpelling? s = some word) : word.spelling = s := by
  unfold Keyword.ofSpelling? at h
  split at h <;> cases h <;> rfl

theorem ofSpelling?_spelling (word : Keyword) :
    Keyword.ofSpelling? word.spelling = some word := by
  cases word <;> rfl

/-- A word is the token of a keyword if it is spelled like one, and else an identifier. -/
theorem kind_word (letters : List Char) :
    (∃ k : Keyword, k.spelling.toList = letters ∧ (word letters).kind = .keyword k) ∨
      (∀ k : Keyword, k.spelling.toList ≠ letters) ∧ (word letters).kind = .identifier := by
  cases hk : Keyword.ofSpelling? (String.ofList letters) with
  | some k =>
    refine .inl ⟨k, ?_, by simp [kind, hk]⟩
    rw [spelling_of_ofSpelling? hk, String.toList_ofList]
  | none =>
    refine .inr ⟨?_, by simp [kind, hk]⟩
    rintro k rfl
    rw [String.ofList_toList, ofSpelling?_spelling] at hk
    contradiction

theorem isWord_piece_word (letters : List Char) : (word letters).piece.IsWord := by
  rcases kind_word letters with ⟨k, -, h⟩ | ⟨-, h⟩
  · exact .inl (by simp [piece, h, TokenKind.isKeyword])
  · exact .inr h

theorem wellFormed_piece {l : Lexeme} (h : l.WellFormed) : l.piece.WellFormed := by
  cases l with
  | lineEnd e =>
    refine .newline ?_
    cases e <;> decide
  | blanks cs =>
    obtain ⟨c, cs, rfl⟩ := List.exists_cons_of_ne_nil h.1
    exact .whitespace h.2
  | equals => exact .equals
  | colon => exact .colon
  | semicolon => exact .semicolon
  | string quote body closed =>
    cases closed with
    | false => exact .openString (openString_raw h)
    | true =>
      obtain ⟨hq, es, hes, hbody⟩ := h
      obtain rfl : body = es := by simpa using hbody
      exact .closedString hq (StringInside.of_fits hes)
  | number cs =>
    obtain ⟨c, cs, rfl⟩ := List.exists_cons_of_ne_nil h.1
    exact .number h.2
  | word letters =>
    obtain ⟨c, cs, rfl, hc, hcs⟩ := h
    rcases kind_word (c :: cs) with ⟨k, hk, hkind⟩ | ⟨hne, hkind⟩
    · have : (word (c :: cs)).piece = ⟨.keyword k, k.spelling.toList⟩ := by
        rw [piece, hkind, hk]
        rfl
      rw [this]
      exact .keyword k
    · rw [piece, hkind]
      exact .identifier hc hcs hne
  | unknown c =>
    obtain ⟨hb, hm, hq, hd, hw⟩ := h
    refine .unknown hb ?_ hd hw
    rw [ofMark?_eq_none_iff] at hm
    simpa [IsQuote, and_assoc] using And.intro hm hq

/-- Every piece that is written as its kind asks is that of a lexeme. -/
theorem exists_of_piece {p : Piece} (h : p.WellFormed) :
    ∃ l : Lexeme, l.WellFormed ∧ l.piece = p := by
  cases h with
  | keyword k =>
    refine ⟨.word k.spelling.toList, ?_, ?_⟩
    · cases k <;> exact ⟨_, _, rfl, rfl, List.all_eq_true.1 rfl⟩
    · simp [piece, kind, raw, ofSpelling?_spelling]
  | @identifier c cs hc hcs hword =>
    refine ⟨.word (c :: cs), ⟨c, cs, rfl, hc, hcs⟩, ?_⟩
    rcases kind_word (c :: cs) with ⟨k, hk, -⟩ | ⟨-, hkind⟩
    · exact absurd hk (hword k)
    · rw [piece, hkind]
      rfl
  | @number c cs h => exact ⟨.number (c :: cs), ⟨by simp, h⟩, rfl⟩
  | @whitespace c cs h => exact ⟨.blanks (c :: cs), ⟨by simp, h⟩, rfl⟩
  | newline h =>
    simp only [List.mem_cons, List.not_mem_nil, or_false] at h
    rcases h with rfl | rfl | rfl | rfl | rfl
    · exact ⟨.lineEnd .lineFeed, trivial, rfl⟩
    · exact ⟨.lineEnd .carriageReturn, trivial, rfl⟩
    · exact ⟨.lineEnd .carriageReturnLineFeed, trivial, rfl⟩
    · exact ⟨.lineEnd .lineSeparator, trivial, rfl⟩
    · exact ⟨.lineEnd .paragraphSeparator, trivial, rfl⟩
  | equals => exact ⟨.equals, trivial, rfl⟩
  | colon => exact ⟨.colon, trivial, rfl⟩
  | semicolon => exact ⟨.semicolon, trivial, rfl⟩
  | @closedString quote cs hq hcs =>
    obtain ⟨es, hes, rfl⟩ := hcs.exists_fits
    exact ⟨.string quote es true, ⟨hq, es, hes, .inl rfl⟩, rfl⟩
  | openString h =>
    obtain ⟨quote, body, hl, rfl⟩ := exists_of_openString h
    exact ⟨_, hl, rfl⟩
  | @unknown c hb hm hd hw =>
    refine ⟨.unknown c, ⟨hb, ?_, ?_, hd, hw⟩, rfl⟩
    · rw [ofMark?_eq_none_iff]
      refine ⟨?_, ?_, ?_⟩ <;> rintro rfl <;> simp at hm
    · rintro (rfl | rfl) <;> simp at hm

/-! ### Neighbours -/

theorem isWordPart_eq (c : Char) : isWordPart c = (isWordStart c || c.isDigit) := by
  unfold isWordPart isWordStart Char.isAlphanum
  cases c.isAlpha <;> cases c.isDigit <;> simp

/-- The first character of a lexeme tells what it is. -/
theorem head_iff {l : Lexeme} {c : Char} {cs : List Char} (h : l.WellFormed)
    (hraw : l.raw = c :: cs) :
    (isInlineBlank c = true ↔ l.kind = .whitespace) ∧ (isLineEnd c = true ↔ l.kind = .newline) ∧
      (c.isDigit = true ↔ l.kind = .number) ∧ (isWordStart c = true ↔ l.piece.IsWord) := by
  have hinline (hb : isBlank c = false) : isInlineBlank c = false := by simp [isInlineBlank, hb]
  cases l with
  | lineEnd e => cases e <;> obtain ⟨rfl, rfl⟩ := List.cons.inj hraw <;> decide
  | equals | colon | semicolon =>
    obtain ⟨rfl, rfl⟩ := List.cons.inj hraw
    decide
  | string quote body closed =>
    obtain ⟨rfl, -⟩ := List.cons.inj hraw
    have hw : ¬ (string quote body closed).piece.IsWord := by
      simp [piece, kind, Piece.IsWord, TokenKind.isKeyword]
    rcases h.1 with rfl | rfl <;> simp only [hw, kind] <;> decide
  | blanks ds =>
    obtain rfl : ds = c :: cs := hraw
    have hi := h.2 c List.mem_cons_self
    have hb := isBlank_of_isInlineBlank hi
    have hd : ¬ c.isDigit = true := fun hd => by
      rw [isBlank_of_isDigit hd] at hb
      contradiction
    have hw : ¬ isWordStart c = true := fun hw => by
      rw [isBlank_of_isWordStart hw] at hb
      contradiction
    simp [hi, isLineEnd_of_isInlineBlank hi, hd, hw, kind, piece, Piece.IsWord,
      TokenKind.isKeyword]
  | number ds =>
    obtain rfl : ds = c :: cs := hraw
    have hd := h.2 c List.mem_cons_self
    have hb := isBlank_of_isDigit hd
    have hw : ¬ isWordStart c = true := fun hw => by
      rw [isDigit_of_isWordStart hw] at hd
      contradiction
    simp [hinline hb, isLineEnd_of_isBlank hb, hd, hw, kind, piece, Piece.IsWord,
      TokenKind.isKeyword]
  | word ds =>
    obtain ⟨d, ds, rfl, hw, -⟩ := h
    obtain ⟨rfl, rfl⟩ := List.cons.inj hraw
    have hb := isBlank_of_isWordStart hw
    have hp := isWord_piece_word (d :: ds)
    rcases kind_word (d :: ds) with ⟨k, -, hk⟩ | ⟨-, hk⟩ <;>
      simp [hinline hb, isLineEnd_of_isBlank hb, isDigit_of_isWordStart hw, hw, hk, hp]
  | unknown d =>
    obtain ⟨rfl, rfl⟩ := List.cons.inj hraw
    obtain ⟨hb, -, -, hd, hw⟩ := h
    simp [hinline hb, isLineEnd_of_isBlank hb, hd, hw, kind, piece, Piece.IsWord,
      TokenKind.isKeyword]

/-- Only the line end that is a line feed alone starts with a line feed. -/
theorem head_eq_lineFeed_iff {l : Lexeme} {c : Char} {cs : List Char} (h : l.WellFormed)
    (hraw : l.raw = c :: cs) : c = '\n' ↔ l.kind = .newline ∧ l.raw = ['\n'] := by
  constructor
  · rintro rfl
    have hm : (lineEnd .lineFeed).WellFormed := trivial
    have hkind := (head_iff h hraw).2.1.1 (by decide)
    cases l with
    | lineEnd e => cases e <;> first | exact ⟨rfl, rfl⟩ | cases hraw
    | word ds =>
      rcases kind_word ds with ⟨k, -, hk⟩ | ⟨-, hk⟩ <;> rw [hk] at hkind <;> contradiction
    | _ => contradiction
  · rintro ⟨-, hp⟩
    rw [hraw] at hp
    exact (List.cons.inj hp).1

/-- **A lexeme stops before another one exactly if their pieces do not merge.** -/
theorem stops_iff {l m : Lexeme} (hl : l.WellFormed) (hm : m.WellFormed) (rest : List Char) :
    l.Stops (m.raw ++ rest) ↔ ¬ l.piece.Merges m.piece := by
  obtain ⟨c, cs, hraw⟩ := List.exists_cons_of_ne_nil hm.raw_ne_nil
  obtain ⟨hblank, hline, hdigit, hword⟩ := head_iff hm hraw
  have hstops : l.Stops (m.raw ++ rest) ↔ ¬ l.takes c = true := by
    simp [Stops, hraw]
  rw [hstops, not_iff_not]
  have hkind : m.piece.kind = m.kind := rfl
  have hmraw : m.piece.raw = m.raw := rfl
  cases l with
  | lineEnd e =>
    have := head_eq_lineFeed_iff hm hraw
    cases e <;> simp [takes, Piece.Merges, Piece.IsWord, piece, kind, LineEnd.raw,
      TokenKind.isKeyword, this, raw]
  | blanks ds => simp [takes, Piece.Merges, Piece.IsWord, piece, kind, hblank, TokenKind.isKeyword]
  | number ds => simp [takes, Piece.Merges, Piece.IsWord, piece, kind, hdigit, TokenKind.isKeyword]
  | word ds =>
    have hp := isWord_piece_word ds
    have hk : (word ds).piece.kind = (word ds).kind := rfl
    simp only [takes, isWordPart_eq, Bool.or_eq_true, hword, hdigit]
    rcases kind_word ds with ⟨k, -, hw⟩ | ⟨-, hw⟩ <;> simp [Piece.Merges, hp, hk, hw, hkind]
  | string quote body closed =>
    have ho := openString_raw_iff hl
    have hsraw : (string quote body closed).piece.raw = (string quote body closed).raw := rfl
    have hskind : (string quote body closed).piece.kind = .string := rfl
    simp only [Piece.Merges, Piece.IsWord, hsraw, hskind, ho, hkind, ← hline, Ne]
    cases closed <;> simp [takes, TokenKind.isKeyword]
  | _ => simp [takes, Piece.Merges, Piece.IsWord, piece, kind, TokenKind.isKeyword]

end Lexeme

/-- Lexemes are apart if their pieces do not merge. -/
theorem apart_iff {ls : List Lexeme} :
    Apart [] ls ↔ (∀ l ∈ ls, l.WellFormed) ∧
      (ls.map Lexeme.piece).IsChain fun p q => ¬ p.Merges q := by
  induction ls with
  | nil => simp [Apart]
  | cons l ls ih =>
    rw [Apart, ih, List.append_nil, List.forall_mem_cons]
    cases ls with
    | nil => simp [Lexeme.stops_nil]
    | cons m ls =>
      simp only [List.map_cons, List.isChain_cons_cons, List.flatMap_cons]
      constructor
      · rintro ⟨hl, hs, hls, hc⟩
        have hm := hls m List.mem_cons_self
        exact ⟨⟨hl, hls⟩, (Lexeme.stops_iff hl hm _).1 hs, hc⟩
      · rintro ⟨⟨hl, hls⟩, hs, hc⟩
        have hm := hls m List.mem_cons_self
        exact ⟨hl, (Lexeme.stops_iff hl hm _).2 hs, hls, hc⟩

theorem flatMap_piece_raw (ls : List Lexeme) :
    (ls.map Lexeme.piece).flatMap Piece.raw = ls.flatMap Lexeme.raw := by
  rw [List.flatMap_map]
  rfl

theorem exists_of_pieces {pieces : List Piece} (h : ∀ p ∈ pieces, p.WellFormed) :
    ∃ ls : List Lexeme, (∀ l ∈ ls, l.WellFormed) ∧ ls.map Lexeme.piece = pieces := by
  induction pieces with
  | nil => exact ⟨[], by simp, rfl⟩
  | cons p ps ih =>
    obtain ⟨ls, hls, rfl⟩ := ih fun q hq => h q (List.mem_cons_of_mem p hq)
    obtain ⟨l, hl, rfl⟩ := Lexeme.exists_of_piece (h p List.mem_cons_self)
    exact ⟨l :: ls, List.forall_mem_cons.2 ⟨hl, hls⟩, rfl⟩

/-- The pieces that tokenize a text are those of its lexemes. -/
theorem tokenizes_iff_lexemes {cs : List Char} {pieces : List Piece} :
    Tokenizes cs pieces ↔ pieces = (lexemes cs).map Lexeme.piece := by
  constructor
  · rintro ⟨hjoined, -, hwf, hapart⟩
    obtain ⟨ls, hls, rfl⟩ := exists_of_pieces hwf
    rw [flatMap_piece_raw] at hjoined
    rw [lexemes_eq_iff.2 ⟨hjoined, apart_iff.2 ⟨hls, hapart⟩⟩]
  · rintro rfl
    obtain ⟨hraw, hapart⟩ := lexemes_eq_iff.1 (rfl : lexemes cs = lexemes cs)
    obtain ⟨hls, hchain⟩ := apart_iff.1 hapart
    refine ⟨by rw [flatMap_piece_raw, hraw], ?_, ?_, hchain⟩
    · intro p hp
      obtain ⟨l, hl, rfl⟩ := List.mem_map.1 hp
      exact (hls l hl).raw_ne_nil
    · intro p hp
      obtain ⟨l, hl, rfl⟩ := List.mem_map.1 hp
      exact Lexeme.wellFormed_piece (hls l hl)

/-! ## Slices -/

theorem takeBytesFrom_append (taken cs ds : List Char) :
    takeBytesFrom taken (cs ++ ds) (byteSize cs) = some (taken.reverse ++ cs) := by
  induction cs generalizing taken with
  | nil => cases ds <;> simp [takeBytesFrom]
  | cons c cs ih =>
    have hc := c.utf8Size_pos
    obtain ⟨n, hn⟩ : ∃ n, c.utf8Size + byteSize cs = n + 1 :=
      ⟨_, (Nat.sub_add_cancel (by omega)).symm⟩
    rw [List.cons_append, byteSize_cons, hn, takeBytesFrom, if_pos (by omega), ← hn]
    rw [Nat.add_sub_cancel_left, ih]
    simp

theorem takeBytes?_append (cs ds : List Char) : takeBytes? (cs ++ ds) (byteSize cs) = some cs :=
  takeBytesFrom_append [] cs ds

/-- The characters between the two ends of a stretch are the stretch. -/
theorem charsBetween?_append (cs ds es : List Char) :
    charsBetween? (cs ++ ds ++ es) (byteSize cs) (byteSize cs + byteSize ds) = some ds := by
  unfold charsBetween?
  rw [← byteSize_append, takeBytes?_append, List.append_assoc, takeBytes?_append]
  simp

theorem slices?_placeLexemes {source : String} {before : List Char} {ls : List Lexeme}
    (h : source.toList = before ++ ls.flatMap Lexeme.raw) :
    slices? source ((placeLexemes (byteSize before) ls).map PlacedLexeme.token) =
      some (ls.map Lexeme.piece) := by
  induction ls generalizing before with
  | nil => rfl
  | cons l ls ih =>
    rw [List.flatMap_cons, ← List.append_assoc] at h
    have hrest := ih h
    have hsize : source.utf8ByteSize = byteSize (before ++ l.raw ++ ls.flatMap Lexeme.raw) := by
      rw [← h, byteSize_toList]
    -- the next token, or the end, is where the lexeme ends
    have hnext : ((((placeLexemes (byteSize before + byteSize l.raw) ls).map
        PlacedLexeme.token).head?.map Token.pos).getD source.utf8ByteSize) =
        byteSize before + byteSize l.raw := by
      cases ls with
      | nil => simp [hsize]
      | cons m ms => simp [placeLexemes_cons, PlacedLexeme.token]
    rw [byteSize_append] at hrest
    rw [placeLexemes_cons, List.map_cons, slices?, hnext, hrest, List.map_cons]
    simp only [PlacedLexeme.token, h, charsBetween?_append]
    rfl

theorem slices?_tokens (source : String) :
    slices? source (tokens source) = some ((lexemes source.toList).map Lexeme.piece) := by
  have h : source.toList = [] ++ (lexemes source.toList).flatMap Lexeme.raw := by
    rw [flatMap_raw_lexemes, List.nil_append]
  exact slices?_placeLexemes h

/-- **A script falls into pieces at its tokens, and these pieces are the only ones that tokenize
it.** -/
theorem tokenizes_iff_slices (source : String) :
    ∃ pieces, slices? source (tokens source) = some pieces ∧
      ∀ others, Tokenizes source.toList others ↔ others = pieces :=
  ⟨_, slices?_tokens source, fun _ => tokenizes_iff_lexemes⟩

end ScriptCheck
