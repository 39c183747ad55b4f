import Mathlib.Data.List.Infix
import ScriptCheck.Proofs.Concat
import ScriptCheck.Proofs.Token.Tokenization
import ScriptCheck.Proofs.Token.Walk

/-!
# Lexemes and the text around them

A lexeme depends on the text that it covers and on nothing in front of it. What stands behind only
decides where it ends, and the end of the input does that as well as a character that it cannot
take. So the text of a lexeme alone is that lexeme again, with the same errors; and when a script
goes on, all its lexemes stay as they are but the last one, which can become longer.

* `Piece.script`, `Piece.errorsAt` — a piece as a script of its own, and the errors of that script
* `Piece.StandsAlone` — a piece alone has the token and the errors that it has in its script
* `pieces_stand_alone` — so it is for all the pieces of a script
* `scan_dropLast_prefix` — the lexemes of a script in front of the last one begin every script that
  goes on from it
* `tokens_dropLast_prefix` — so do its tokens, and their errors
-/

namespace ScriptCheck

open Text

/-! ## Alone -/

namespace Piece

/-- The piece as a script of its own. -/
def script (p : Piece) : String := String.ofList p.raw

/-- The errors of the piece as a script of its own, moved to a byte offset. -/
def errorsAt (pos : Nat) (p : Piece) : List LexError :=
  (lexErrors p.script).map (·.relocate (· + pos))

/-- Whether the piece alone has a token, moved to the beginning, and errors, which are inside it. -/
structure StandsAlone (p : Piece) (t : Token) (es : List LexError) : Prop where
  tokens_eq : tokens p.script = [{ t with pos := 0 }]
  errors_eq : es = p.errorsAt t.pos
  inside : ∀ e ∈ es, t.pos ≤ e.pos ∧ e.pos < t.pos + byteSize p.raw

end Piece

section

variable {l : Lexeme} {m : PlacedLexeme} {source : String}

/-- **The text of a lexeme alone is that lexeme.** -/
theorem lexemes_raw (h : l.WellFormed) : lexemes l.raw = [l] :=
  lexemes_eq_iff.2 ⟨List.flatMap_singleton _ _, h, l.stops_nil, trivial⟩

theorem scan_script_piece (h : l.WellFormed) : scan l.piece.script = [⟨0, l⟩] := by
  have hraw : l.piece.script.toList = l.raw := String.toList_ofList
  rw [scan, hraw, lexemes_raw h, placeLexemes_cons, placeLexemes_nil]

/-- The errors of a lexeme are those that it has alone. -/
theorem errorsAt_piece (h : l.WellFormed) (pos : Nat) : l.piece.errorsAt pos = l.errors pos := by
  have hmoved := Lexeme.errors_add pos 0 l
  rw [Nat.zero_add] at hmoved
  rw [Piece.errorsAt, lexErrors, scan_script_piece h, List.flatMap_singleton, hmoved]
  rfl

/-- What a script says of a lexeme, the text of the lexeme says alone. -/
theorem standsAlone_of_mem_scan (hm : m ∈ scan source) :
    m.lexeme.piece.StandsAlone m.token m.errors := by
  have hwf := wellFormed_of_mem_scan hm
  refine ⟨?_, (errorsAt_piece hwf m.pos).symm, fun e he => pos_of_mem_errors_lexeme he⟩
  rw [tokens, scan_script_piece hwf]
  rfl

/-- The pieces of a script are those of its lexemes. -/
theorem slices?_scan (source : String) :
    slices? source (tokens source) = some ((scan source).map fun m => m.lexeme.piece) := by
  have hlexemes : (scan source).map PlacedLexeme.lexeme = lexemes source.toList :=
    map_lexeme_placeLexemes 0 _
  rw [slices?_tokens, ← hlexemes, List.map_map]
  rfl

end

/-- **Each piece of a script is alone what it is in the script: it has one token, with the same kind
and text, and the errors that are found on the way to this token, all of them inside the piece. The
errors of the script, which wait at its end, are those of its pieces, one piece after the other.** -/
theorem pieces_stand_alone (source : String) :
    ∃ pieces : List Piece, slices? source (tokens source) = some pieces ∧
      pieces.length = (tokens source).length ∧
      (∀ (n : Nat) (t : Token) (p : Piece), (tokens source)[n]? = some t → pieces[n]? = some p →
        p.StandsAlone t (Cursor.fresh source n).pending) ∧
      lexErrors source = ((tokens source).zip pieces).flatMap (fun (t, p) => p.errorsAt t.pos) ∧
      ∀ n, ((Cursor.start source).skip n).atEnd = true →
        ((Cursor.start source).skip n).pending = lexErrors source := by
  refine ⟨_, slices?_scan source, by simp [tokens], fun n t p ht hp => ?_, ?_,
    fun n hn => Cursor.pending_of_atEnd hn⟩
  · rw [tokens, List.getElem?_map, Option.map_eq_some_iff] at ht
    obtain ⟨m, hm, rfl⟩ := ht
    rw [List.getElem?_map, hm] at hp
    obtain rfl := Option.some.inj hp
    rw [(Cursor.fresh_of_getElem? hm).2]
    exact standsAlone_of_mem_scan (List.mem_of_getElem? hm)
  · rw [lexErrors, tokens, List.zip_map', List.flatMap_map]
    refine List.flatMap_congr fun m hm => ?_
    exact (standsAlone_of_mem_scan hm).errors_eq

/-! ## In front of more -/

/-- **When a text goes on, its lexemes in front of the last one stay.** -/
theorem lexemes_append_of_eq {as : List Char} {init : List Lexeme} {l : Lexeme}
    (h : lexemes as = init ++ [l]) (bs : List Char) :
    lexemes (as ++ bs) = init ++ lexemes (l.raw ++ bs) := by
  obtain ⟨hraw, hapart⟩ := lexemes_eq_iff.1 h
  rw [Apart.append_iff, List.flatMap_singleton, List.append_nil] at hapart
  obtain ⟨hinit, hwf, -⟩ := hapart
  rw [List.flatMap_append, List.flatMap_singleton] at hraw
  -- the text behind the row begins with the same character as before
  have hhead : (l.raw ++ bs).head? = l.raw.head? := by
    rw [List.head?_append_of_ne_nil _ hwf.raw_ne_nil]
  rw [← hraw, List.append_assoc, lexemes_append (hinit.congr hhead)]

theorem scan_dropLast_prefix (a b : String) : (scan a).dropLast <+: scan (a ++ b) := by
  rcases List.eq_nil_or_concat (lexemes a.toList) with h | ⟨init, l, h⟩
  · rw [scan, h]
    exact List.nil_prefix
  · rw [List.concat_eq_append] at h
    rw [scan, scan, String.toList_append, lexemes_append_of_eq h, h, placeLexemes_append,
      placeLexemes_append, placeLexemes_cons, placeLexemes_nil, List.dropLast_concat]
    exact List.prefix_append _ _

/-- **When a script goes on, its tokens in front of the last one stay, and so do their errors: they
come first, and up to the last token of the script a cursor finds the same.** -/
theorem tokens_dropLast_prefix (a b : String) :
    (tokens a).dropLast <+: tokens (a ++ b) ∧
      (scan a).dropLast.flatMap PlacedLexeme.errors <+: lexErrors (a ++ b) ∧
      ∀ n < (tokens a).length,
        ((Cursor.start (a ++ b)).skip n).pending = ((Cursor.start a).skip n).pending := by
  have hscan := scan_dropLast_prefix a b
  refine ⟨?_, hscan.flatMap _, fun n hn => ?_⟩
  · rw [tokens, tokens, ← List.map_dropLast]
    exact hscan.map _
  · obtain ⟨rest, hrest⟩ := hscan
    rw [tokens, List.length_map] at hn
    have htake : (scan (a ++ b)).take n = (scan a).take n := by
      rw [← hrest, List.take_append_of_le_length (by rw [List.length_dropLast]; omega),
        List.dropLast_eq_take, List.take_take, Nat.min_eq_left (by omega)]
    rw [(Cursor.skip_start (a ++ b) n).2.1, (Cursor.skip_start a n).2.1, htake]

-- the last token changes: behind the line feed, the two characters are one line end
example : (tokens "x\r").map Token.text = ["x", "\r"] ∧
    (tokens "x\r\n").map Token.text = ["x", "\r\n"] := by decide +kernel

end ScriptCheck
