import ScriptCheck.Proofs.Token.Place
import ScriptCheck.Proofs.Token.Tokenization

/-!
# Strings stand for what their elements stand for

A string is written between quotes as a row of elements, and if no quote closes it, it goes on to
the end of its line. What is written determines the elements, and these determine the text of the
token and its errors.

* `WrittenString` — a string by its quote, its elements and its ending, with what is written
  (`raw`), what is meant (`text`), and what is wrong with it (`errors`)
* `WrittenString.scan_eq` — such a string is read as it is meant, whatever stands behind it
* `WrittenString.exists_of_mem_scan`, `WrittenString.lexeme_eq_of_standsAt` — every string token is
  one of them, and no other one stands in its place
* `WrittenString.ofText` — a text as a string in which nothing is wrong
* `strings_stand_for_elements` — all of it
-/

namespace ScriptCheck

open Text

/-! ## Strings as they are written -/

/-- How a string ends. -/
inductive StringEnding where
  /-- With its quote. -/
  | quote
  /-- With its line. -/
  | line
  /-- With its line, and a backslash in front of the end of it. -/
  | backslash
  deriving DecidableEq, Repr

/-- A string: the quote that opens it, its elements, and how it ends. -/
structure WrittenString where
  quote : Char
  elements : List StringElement
  ending : StringEnding
  deriving DecidableEq, Repr

/-- Whether neither a line separator nor a paragraph separator is in a text. -/
def NoSeparator (cs : List Char) : Prop := ∀ c ∈ cs, c ≠ '\u2028' ∧ c ≠ '\u2029'

/-- One error for each element that is a backslash with an unknown character behind it, at the byte
offset of that backslash. -/
def unknownEscapes (pos : Nat) (es : List StringElement) : List LexError :=
  (List.range es.length).filterMap fun i =>
    match es[i]? with
    | some (StringElement.unknown c) =>
      some ⟨.unknownEscape c, pos + byteSize ((es.take i).flatMap StringElement.raw)⟩
    | _ => none

namespace WrittenString

/-- How the string is written. -/
def raw (s : WrittenString) : List Char :=
  s.quote :: s.elements.flatMap StringElement.raw ++
    match s.ending with
    | .quote => [s.quote]
    | .line => []
    | .backslash => ['\\']

/-- What the string stands for. -/
def text (s : WrittenString) : List Char :=
  s.elements.flatMap StringElement.value ++
    match s.ending with
    | .backslash => ['\\']
    | _ => []

/-- What is wrong with the string if it is at a byte offset: its unknown escapes, and then that it
has no closing quote. -/
def errors (pos : Nat) (s : WrittenString) : List LexError :=
  unknownEscapes (pos + s.quote.utf8Size) s.elements ++
    match s.ending with
    | .quote => []
    | _ => [⟨.unterminatedString, pos⟩]

/-- Whether it is written by the rules: between quotes, of elements that can stand there. -/
def WellFormed (s : WrittenString) : Prop := IsQuote s.quote ∧ ∀ e ∈ s.elements, e.Fits s.quote

/-- Whether it ends in front of a text: a string without a closing quote ends only in front of the
end of a line or of the input. -/
def StopsBefore (s : WrittenString) (rest : List Char) : Prop :=
  s.ending ≠ .quote → ∀ c ∈ rest.head?, isLineEnd c = true

/-- Whether it stands in a script at a byte offset. -/
def StandsAt (s : WrittenString) (source : String) (pos : Nat) : Prop :=
  ∃ before rest, source.toList = before ++ s.raw ++ rest ∧ pos = byteSize before ∧
    s.StopsBefore rest

/-- Whether it is what a lexeme says: as it is written, in the text of the token, and in the
errors. -/
def Gives (s : WrittenString) (m : PlacedLexeme) : Prop :=
  m.lexeme.raw = s.raw ∧ m.token = ⟨.string, m.pos, String.ofList s.text⟩ ∧
    m.errors = s.errors m.pos

/-! ## Their lexemes -/

/-- The lexeme that the string is. -/
def lexeme (s : WrittenString) : Lexeme :=
  match s.ending with
  | .quote => .string s.quote s.elements true
  | .line => .string s.quote s.elements false
  | .backslash => .string s.quote (s.elements ++ [.trailing]) false

end WrittenString

section

variable {s t : WrittenString} {pos : Nat}

theorem unknownEscapes_cons (pos : Nat) (e : StringElement) (es : List StringElement) :
    unknownEscapes pos (e :: es) =
      (e.error? pos).toList ++ unknownEscapes (pos + byteSize e.raw) es := by
  have hlater : ∀ i, pos + byteSize (((e :: es).take (i + 1)).flatMap StringElement.raw) =
      pos + byteSize e.raw + byteSize ((es.take i).flatMap StringElement.raw) := by
    intro i
    rw [List.take_succ_cons, List.flatMap_cons, byteSize_append, Nat.add_assoc]
  unfold unknownEscapes
  rw [List.length_cons, List.range_succ_eq_map, List.filterMap_cons, List.filterMap_map]
  simp only [Function.comp_def, Nat.succ_eq_add_one, hlater, List.getElem?_cons_succ]
  cases e <;> simp [StringElement.error?]

theorem StringElement.errors_eq (pos : Nat) (es : List StringElement) :
    errors pos es = unknownEscapes pos es := by
  induction es generalizing pos with
  | nil => rfl
  | cons e es ih => rw [errors, unknownEscapes_cons, ih]

/-- A backslash at the end of the line is no error. -/
theorem unknownEscapes_concat_trailing (pos : Nat) (es : List StringElement) :
    unknownEscapes pos (es ++ [.trailing]) = unknownEscapes pos es := by
  induction es generalizing pos with
  | nil => rfl
  | cons e es ih => rw [List.cons_append, unknownEscapes_cons, unknownEscapes_cons, ih]

namespace WrittenString

theorem raw_lexeme (s : WrittenString) : s.lexeme.raw = s.raw := by
  obtain ⟨quote, elements, ending⟩ := s
  cases ending <;> simp [lexeme, raw, Lexeme.raw, StringElement.raw]

theorem wellFormed_lexeme (h : s.WellFormed) : s.lexeme.WellFormed := by
  obtain ⟨quote, elements, ending⟩ := s
  obtain ⟨hquote, hfits⟩ := h
  cases ending with
  | quote => exact ⟨hquote, elements, hfits, .inl rfl⟩
  | line => exact ⟨hquote, elements, hfits, .inl rfl⟩
  | backslash => exact ⟨hquote, elements, hfits, .inr ⟨rfl, rfl⟩⟩

theorem stops_lexeme {rest : List Char} (h : s.StopsBefore rest) : s.lexeme.Stops rest := by
  obtain ⟨quote, elements, ending⟩ := s
  intro c hc
  cases ending with
  | quote => rfl
  | line | backslash =>
    have hend : isLineEnd c = true := h (by simp) c hc
    simp [lexeme, Lexeme.takes, hend]

theorem stopsBefore_of_stops {rest : List Char} (h : s.lexeme.Stops rest) :
    s.StopsBefore rest := by
  obtain ⟨quote, elements, ending⟩ := s
  intro hne c hc
  cases ending with
  | quote => contradiction
  | line | backslash => simpa [lexeme, Lexeme.takes] using h c hc

/-- The lexeme of a string says what the string says. -/
theorem gives_lexeme (s : WrittenString) (pos : Nat) : s.Gives ⟨pos, s.lexeme⟩ := by
  refine ⟨raw_lexeme s, ?_, ?_⟩
  · obtain ⟨quote, elements, ending⟩ := s
    cases ending <;>
      simp [PlacedLexeme.token, lexeme, text, Lexeme.kind, Lexeme.text, StringElement.value]
  · obtain ⟨quote, elements, ending⟩ := s
    cases ending <;>
      simp [PlacedLexeme.errors, lexeme, errors, Lexeme.errors, StringElement.errors_eq,
        unknownEscapes_concat_trailing]

/-- Strings with one lexeme are one string: a backslash at the end of the line is no element. -/
theorem eq_of_lexeme_eq (hs : s.WellFormed) (ht : t.WellFormed) (h : s.lexeme = t.lexeme) :
    s = t := by
  have htrailing {quote : Char} {es es' : List StringElement} (hes : ∀ e ∈ es, e.Fits quote) :
      es ≠ es' ++ [.trailing] := by
    rintro rfl
    exact hes .trailing (List.mem_append_right _ List.mem_cons_self)
  obtain ⟨quote, elements, ending⟩ := s
  obtain ⟨quote', elements', ending'⟩ := t
  cases ending <;> cases ending' <;> simp only [lexeme, Lexeme.string.injEq] at h
  all_goals obtain ⟨rfl, hbody, hclosed⟩ := h
  · rw [hbody]
  · contradiction
  · contradiction
  · contradiction
  · rw [hbody]
  · exact absurd hbody (htrailing hs.2)
  · contradiction
  · exact absurd hbody.symm (htrailing ht.2)
  · rw [List.append_cancel_right hbody]

/-! ## Reading them -/

/-- **A string is read as it is meant, whatever stands behind it, and reading goes on directly
behind it.** -/
theorem scan_eq (h : s.WellFormed) {rest : List Char} (hrest : s.StopsBefore rest) :
    scan (String.ofList (s.raw ++ rest)) =
      ⟨0, s.lexeme⟩ :: placeLexemes (byteSize s.raw) (lexemes rest) := by
  have hapart : Apart rest [s.lexeme] :=
    ⟨wellFormed_lexeme h, stops_lexeme hrest, trivial⟩
  have hlexemes := lexemes_append hapart
  rw [List.flatMap_singleton, raw_lexeme] at hlexemes
  rw [scan, String.toList_ofList, hlexemes, List.singleton_append, placeLexemes_cons, raw_lexeme,
    Nat.zero_add]

/-- A string that stands where a lexeme does is that lexeme. -/
theorem lexeme_eq_of_standsAt {source : String} {m : PlacedLexeme} (hm : m ∈ scan source)
    (h : s.WellFormed) (hstands : s.StandsAt source m.pos) : s.lexeme = m.lexeme := by
  obtain ⟨before, rest, hsource, hpos, hrest⟩ := hstands
  obtain ⟨front, back, hsource', hlexemes, hpos'⟩ := exists_append_of_mem_scan hm
  -- both are behind the same text, and so in front of the same one
  have hbefore : before = front.flatMap Lexeme.raw := by
    have htaken := takeBytes?_append before (s.raw ++ rest)
    rw [← List.append_assoc, ← hsource, ← hpos, hpos', hsource', List.append_assoc,
      takeBytes?_append] at htaken
    exact (Option.some.inj htaken).symm
  have hrest' : s.raw ++ rest = m.lexeme.raw ++ back.flatMap Lexeme.raw := by
    rw [hsource, hbefore, List.append_assoc, List.append_assoc] at hsource'
    exact List.append_cancel_left hsource'
  have hwf := wellFormed_of_mem_scan hm
  obtain ⟨c, cs, hraw⟩ := List.exists_cons_of_ne_nil (wellFormed_lexeme h).raw_ne_nil
  obtain ⟨d, ds, hmraw⟩ := List.exists_cons_of_ne_nil hwf.raw_ne_nil
  have hsplit := Lexeme.split_eq (wellFormed_lexeme h) (stops_lexeme hrest) hraw
  have hmsplit := Lexeme.split_eq hwf (stops_of_lexemes_eq hlexemes) hmraw
  rw [← raw_lexeme, hraw, hmraw, List.cons_append, List.cons_append] at hrest'
  obtain ⟨rfl, hcs⟩ := List.cons.inj hrest'
  rw [hcs, hmsplit] at hsplit
  exact (congrArg Prod.fst hsplit).symm

/-- A lexeme with a string token is a string as it is written. -/
theorem exists_lexeme_eq {l : Lexeme} (h : l.WellFormed) (hkind : l.kind = .string) :
    ∃ s : WrittenString, s.WellFormed ∧ s.lexeme = l := by
  cases l with
  | string quote body closed =>
    obtain ⟨hquote, es, hfits, rfl | ⟨rfl, rfl⟩⟩ := h
    · cases closed with
      | true => exact ⟨⟨quote, body, .quote⟩, ⟨hquote, hfits⟩, rfl⟩
      | false => exact ⟨⟨quote, body, .line⟩, ⟨hquote, hfits⟩, rfl⟩
    · exact ⟨⟨quote, es, .backslash⟩, ⟨hquote, hfits⟩, rfl⟩
  | word letters =>
    rw [Lexeme.kind] at hkind
    split at hkind <;> contradiction
  | _ => contradiction

/-- **Every string token is that of a string as it is written.** -/
theorem exists_of_mem_scan {source : String} {m : PlacedLexeme} (hm : m ∈ scan source)
    (hkind : m.token.kind = .string) :
    ∃ s : WrittenString, s.WellFormed ∧ s.StandsAt source m.pos ∧ s.Gives m := by
  obtain ⟨s, hs, hlexeme⟩ := exists_lexeme_eq (wellFormed_of_mem_scan hm) hkind
  have hgives := gives_lexeme s m.pos
  rw [hlexeme] at hgives
  obtain ⟨front, back, hsource, hlexemes, hpos⟩ := exists_append_of_mem_scan hm
  have hraw : m.lexeme.raw = s.raw := hgives.1
  rw [hraw] at hsource
  rw [← hlexeme] at hlexemes
  exact ⟨s, hs, ⟨_, _, hsource, hpos, stopsBefore_of_stops (stops_of_lexemes_eq hlexemes)⟩, hgives⟩

/-! ## What strings can stand for -/

/-- The two separators cannot be in the text of a string: they end a line, and no escape stands for
them. -/
theorem noSeparator_text (h : s.WellFormed) : NoSeparator s.text := by
  have hline {c : Char} (hc : isLineEnd c = false) : c ≠ '\u2028' ∧ c ≠ '\u2029' := by
    constructor <;> rintro rfl <;> contradiction
  intro c hc
  rw [text, List.mem_append] at hc
  rcases hc with hc | hc
  · obtain ⟨e, he, hc⟩ := List.mem_flatMap.1 hc
    have hfits := h.2 e he
    cases e with
    | plain d => exact List.mem_singleton.1 hc ▸ hline hfits.1
    | escape e =>
      rw [List.mem_singleton.1 hc]
      cases e <;> decide
    | unknown d =>
      rcases List.mem_cons.1 hc with rfl | hc
      · decide
      · exact List.mem_singleton.1 hc ▸ hline hfits.2
    | trailing => exact hfits.elim
  · cases hending : s.ending with
    | quote | line => simp [hending] at hc
    | backslash =>
      obtain rfl : c = '\\' := by simpa [hending] using hc
      decide

end WrittenString

/-- An element that stands for a character, between quotes of either kind. -/
def StringElement.standingFor (c : Char) : StringElement :=
  if c = '\n' then .escape .newline
  else if c = '\r' then .escape .carriageReturn
  else if c = '\\' then .escape .backslash
  else if c = '"' then .escape .doubleQuote
  else if c = '\'' then .escape .singleQuote
  else .plain c

theorem StringElement.value_standingFor (c : Char) : (standingFor c).value = [c] := by
  unfold standingFor
  split_ifs <;> simp_all [value, Escape.value]

theorem StringElement.error?_standingFor (pos : Nat) (c : Char) :
    (standingFor c).error? pos = none := by
  unfold standingFor
  split_ifs <;> rfl

theorem StringElement.fits_standingFor {quote c : Char} (hq : IsQuote quote)
    (hc : c ≠ '\u2028' ∧ c ≠ '\u2029') : (standingFor c).Fits quote := by
  unfold standingFor
  split_ifs with hfeed hreturn hbackslash hdouble hsingle
  all_goals try exact trivial
  refine ⟨by simp [isLineEnd, hfeed, hreturn, hc], ?_, hbackslash⟩
  rintro rfl
  exact hq.elim hdouble hsingle

namespace WrittenString

/-- A text as a string in which nothing is wrong. -/
def ofText (quote : Char) (cs : List Char) : WrittenString :=
  ⟨quote, cs.map StringElement.standingFor, .quote⟩

theorem text_ofText (quote : Char) (cs : List Char) : (ofText quote cs).text = cs := by
  have hvalues : (cs.map StringElement.standingFor).flatMap StringElement.value = cs := by
    induction cs with
    | nil => rfl
    | cons c cs ih =>
      rw [List.map_cons, List.flatMap_cons, ih, StringElement.value_standingFor,
        List.singleton_append]
  rw [text, ofText, hvalues]
  exact List.append_nil cs

theorem errors_ofText (pos : Nat) (quote : Char) (cs : List Char) :
    (ofText quote cs).errors pos = [] := by
  have hnone (p : Nat) : unknownEscapes p (cs.map StringElement.standingFor) = [] := by
    induction cs generalizing p with
    | nil => rfl
    | cons c cs ih =>
      rw [List.map_cons, unknownEscapes_cons, ih, StringElement.error?_standingFor]
      rfl
  rw [errors, ofText, hnone]
  rfl

theorem wellFormed_ofText {quote : Char} {cs : List Char} (hq : IsQuote quote)
    (hcs : NoSeparator cs) : (ofText quote cs).WellFormed := by
  refine ⟨hq, fun e he => ?_⟩
  obtain ⟨c, hc, rfl⟩ := List.mem_map.1 he
  exact StringElement.fits_standingFor hq (hcs c hc)

/-- A closed string is read in front of everything. -/
theorem stopsBefore_ofText (quote : Char) (cs rest : List Char) :
    (ofText quote cs).StopsBefore rest := fun h => absurd rfl h

end WrittenString

end

/-- What the string tokens of all scripts stand for are the texts without the two separators. -/
theorem exists_string_token_iff {v : String} :
    (∃ source, ∃ t ∈ tokens source, t.kind = .string ∧ t.text = v) ↔ NoSeparator v.toList := by
  constructor
  · rintro ⟨source, t, ht, hkind, rfl⟩
    obtain ⟨m, hm, rfl⟩ := List.mem_map.1 ht
    obtain ⟨s, hs, -, -, htoken, -⟩ := WrittenString.exists_of_mem_scan hm hkind
    rw [htoken, String.toList_ofList]
    exact WrittenString.noSeparator_text hs
  · intro hv
    have hquote : IsQuote '"' := .inl rfl
    have hscan := WrittenString.scan_eq (WrittenString.wellFormed_ofText hquote hv)
      (WrittenString.stopsBefore_ofText '"' v.toList [])
    have hgives := WrittenString.gives_lexeme (.ofText '"' v.toList) 0
    refine ⟨_, _, List.mem_map_of_mem (hscan ▸ List.mem_cons_self), ?_⟩
    rw [hgives.2.1]
    exact ⟨rfl, by rw [WrittenString.text_ofText, String.ofList_toList]⟩

/-- **A string stands for what its elements stand for, with an error for each unknown escape and one
if no quote closes it, whatever is behind it. Every string token is that of exactly one row of
elements. The texts without the two separators are what strings stand for, and each of them is
written between quotes of either kind with nothing wrong.** -/
theorem strings_stand_for_elements :
    (∀ s : WrittenString, s.WellFormed → ∀ rest, s.StopsBefore rest →
      ∃ m, m.pos = 0 ∧ s.Gives m ∧
        scan (String.ofList (s.raw ++ rest)) =
          m :: placeLexemes (byteSize s.raw) (lexemes rest)) ∧
    (∀ source, ∀ m ∈ scan source, m.token.kind = .string →
      ∃ s : WrittenString, s.Gives m ∧
        ∀ t : WrittenString, t.WellFormed ∧ t.StandsAt source m.pos ↔ t = s) ∧
    ∀ v : String,
      ((∃ source, ∃ t ∈ tokens source, t.kind = .string ∧ t.text = v) ↔ NoSeparator v.toList) ∧
      (NoSeparator v.toList → ∀ quote, IsQuote quote →
        ∃ s : WrittenString, s.WellFormed ∧ s.quote = quote ∧ s.ending = .quote ∧
          s.text = v.toList ∧ ∀ pos, s.errors pos = []) := by
  refine ⟨fun s hs rest hrest => ?_, fun source m hm hkind => ?_, fun v => ⟨?_, ?_⟩⟩
  · exact ⟨⟨0, s.lexeme⟩, rfl, s.gives_lexeme 0, s.scan_eq hs hrest⟩
  · obtain ⟨s, hs, hstands, hgives⟩ := WrittenString.exists_of_mem_scan hm hkind
    refine ⟨s, hgives, fun t => ⟨fun ⟨ht, htstands⟩ => ?_, ?_⟩⟩
    · refine WrittenString.eq_of_lexeme_eq ht hs ?_
      rw [WrittenString.lexeme_eq_of_standsAt hm ht htstands,
        WrittenString.lexeme_eq_of_standsAt hm hs hstands]
    · rintro rfl
      exact ⟨hs, hstands⟩
  · exact exists_string_token_iff
  · intro hv quote hquote
    exact ⟨.ofText quote v.toList, WrittenString.wellFormed_ofText hquote hv, rfl, rfl,
      WrittenString.text_ofText quote v.toList, fun pos => WrittenString.errors_ofText pos quote _⟩

-- an unknown escape is kept and reported, and so is a quote that is missing
example :
    (WrittenString.mk '"' [.plain 'é', .unknown 'q', .escape .doubleQuote] .backslash).errors 4 =
      [⟨.unknownEscape 'q', 7⟩, ⟨.unterminatedString, 4⟩] := by decide

end ScriptCheck
