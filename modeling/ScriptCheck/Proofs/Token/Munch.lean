import ScriptCheck.Proofs.Lists
import ScriptCheck.Token.Lexeme

/-!
# Longest lexemes

`Lexeme.split` takes the longest lexeme from the front of a text. What that means is said without
the function: a lexeme is written as its kind asks (`Lexeme.WellFormed`), and it stops before a text
that starts with no character that it could take (`Lexeme.Stops`).

* `Lexeme.split_cases` — what the first lexeme of a text can be
* `Lexeme.split_eq` — a well-formed lexeme that stops before a text is split off in front of it
* `Apart` — a row of lexemes of which each one stops before the text behind it
* `lexemes_eq_iff` — the lexemes of a text are the only such row that is written like the text
* `lexemes_append` — a row that stops before a text keeps its lexemes in front of it
-/

namespace ScriptCheck

open Text

/-! ## Kinds of characters

No character starts two kinds of lexemes.
-/

theorem isBlank_of_isInlineBlank {c : Char} (h : isInlineBlank c = true) : isBlank c = true := by
  simp only [isInlineBlank, Bool.and_eq_true] at h
  exact h.1

theorem isLineEnd_of_isInlineBlank {c : Char} (h : isInlineBlank c = true) :
    isLineEnd c = false := by
  simp only [isInlineBlank, Bool.and_eq_true, Bool.not_eq_eq_eq_not, Bool.not_true] at h
  exact h.2

/-- A visible ASCII character is not blank. -/
theorem isBlank_of_ascii {c : Char} (h₁ : 0x21 ≤ c.toNat) (h₂ : c.toNat ≤ 0x7E) :
    isBlank c = false := by
  have h : c.toNat < 0x85 := by omega
  have h₃ : ¬ c.toNat < 9 := by omega
  have h₄ : ¬ c.toNat ≤ 13 := by omega
  have h₅ : ¬ c.toNat < 32 := by omega
  have h₆ : ¬ c.toNat ≤ 32 := by omega
  simp [isBlank, CharRanges.has, blankRanges, CharRanges.holds, h, h₃, h₄, h₅, h₆]

theorem isLineEnd_of_isBlank {c : Char} (h : isBlank c = false) : isLineEnd c = false := by
  cases hc : isLineEnd c with
  | false => rfl
  | true => rw [isBlank_of_isLineEnd hc] at h; contradiction

theorem toNat_of_isDigit {c : Char} (h : c.isDigit = true) : 48 ≤ c.toNat ∧ c.toNat ≤ 57 := by
  simp only [Char.isDigit, Bool.and_eq_true, decide_eq_true_eq, ge_iff_le,
    UInt32.le_iff_toNat_le] at h
  exact h

theorem toNat_of_isWordStart {c : Char} (h : isWordStart c = true) :
    65 ≤ c.toNat ∧ c.toNat ≤ 90 ∨ c.toNat = 95 ∨ 97 ≤ c.toNat ∧ c.toNat ≤ 122 := by
  have hword : isWordStart c = (c.isUpper || c.isLower || c == '_') := rfl
  have hupper : c.isUpper = decide (65 ≤ c.toNat ∧ c.toNat ≤ 90) := rfl
  have hlower : c.isLower = (decide (97 ≤ c.toNat) && decide (c.toNat ≤ 122)) := rfl
  rw [hword, hupper, hlower] at h
  simp only [Bool.or_eq_true, Bool.and_eq_true, decide_eq_true_eq, beq_iff_eq] at h
  rcases h with (h | h) | rfl
  · exact .inl h
  · exact .inr (.inr h)
  · exact .inr (.inl rfl)

theorem isBlank_of_isDigit {c : Char} (h : c.isDigit = true) : isBlank c = false := by
  have := toNat_of_isDigit h
  exact isBlank_of_ascii (by omega) (by omega)

theorem isBlank_of_isWordStart {c : Char} (h : isWordStart c = true) : isBlank c = false := by
  have := toNat_of_isWordStart h
  exact isBlank_of_ascii (by omega) (by omega)

theorem isDigit_of_isWordStart {c : Char} (h : isWordStart c = true) : c.isDigit = false := by
  have hw := toNat_of_isWordStart h
  cases hd : c.isDigit with
  | false => rfl
  | true =>
    have := toNat_of_isDigit hd
    omega

/-- Whether the character opens a string. -/
def IsQuote (c : Char) : Prop := c = '"' ∨ c = '\''

instance (c : Char) : Decidable (IsQuote c) := inferInstanceAs (Decidable (_ ∨ _))

theorem toNat_of_isQuote {c : Char} (h : IsQuote c) : c.toNat = 34 ∨ c.toNat = 39 := by
  rcases h with rfl | rfl
  · exact .inl rfl
  · exact .inr rfl

theorem isBlank_of_isQuote {c : Char} (h : IsQuote c) : isBlank c = false := by
  have := toNat_of_isQuote h
  exact isBlank_of_ascii (by omega) (by omega)

theorem ne_backslash_of_isQuote {c : Char} (h : IsQuote c) : c ≠ '\\' := by
  rcases h with rfl | rfl <;> decide

namespace LineEnd

theorem split?_eq_none {c : Char} {cs : List Char} (h : isLineEnd c = false) :
    LineEnd.split? c cs = none := by
  simp only [isLineEnd, Bool.or_eq_false_iff, beq_eq_false_iff_ne] at h
  obtain ⟨⟨⟨hn, hr⟩, hl⟩, hp⟩ := h
  unfold LineEnd.split?
  split
  · exact absurd rfl hn
  · exact absurd rfl hr
  · exact absurd rfl hr
  · exact absurd rfl hl
  · exact absurd rfl hp
  · rfl

theorem isLineEnd_of_split?_eq_none {c : Char} {cs : List Char}
    (h : LineEnd.split? c cs = none) : isLineEnd c = false := by
  unfold LineEnd.split? at h
  split at h
  case h_6 hn hr hl hp _ =>
    simp only [isLineEnd, Bool.or_eq_false_iff, beq_eq_false_iff_ne]
    exact ⟨⟨⟨hn, hr⟩, hl⟩, hp⟩
  all_goals contradiction

/-- A carriage return that is split off alone is not in front of a line feed. -/
theorem ne_lineFeed_of_split? {c d : Char} {cs rest : List Char}
    (h : LineEnd.split? c cs = some (.carriageReturn, rest)) (hd : d ∈ rest.head?) :
    (d == '\n') = false := by
  unfold LineEnd.split? at h
  split at h
  case h_3 hne =>
    cases h
    obtain ⟨ds, rfl⟩ := List.head?_eq_some_iff.1 (Option.mem_def.1 hd)
    simpa using fun hd : d = '\n' => hne ds (by rw [hd])
  all_goals cases h

end LineEnd

namespace Lexeme

theorem ofMark?_eq_none_iff {c : Char} : ofMark? c = none ↔ c ≠ '=' ∧ c ≠ ':' ∧ c ≠ ';' := by
  unfold ofMark?
  split
  · simp
  · simp
  · simp
  · next h₁ h₂ h₃ => exact iff_of_true rfl ⟨h₁, h₂, h₃⟩

/-- A character with another code than the three marks is no mark. -/
theorem ofMark?_of_toNat {c : Char} (h : c.toNat ≠ 58 ∧ c.toNat ≠ 59 ∧ c.toNat ≠ 61) :
    ofMark? c = none := by
  rw [ofMark?_eq_none_iff]
  refine ⟨?_, ?_, ?_⟩ <;> rintro rfl <;> simp at h

theorem ofMark?_of_isBlank {c : Char} (h : isBlank c = true) : ofMark? c = none := by
  rw [ofMark?_eq_none_iff]
  refine ⟨?_, ?_, ?_⟩ <;> rintro rfl <;> exact absurd h (by decide)

end Lexeme

/-! ## Strings -/

/-- Whether the element can stand inside a string between such quotes. -/
def StringElement.Fits (quote : Char) : StringElement → Prop
  | .plain c => isLineEnd c = false ∧ c ≠ quote ∧ c ≠ '\\'
  | .escape _ => True
  | .unknown c => Escape.ofLetter? c = none ∧ isLineEnd c = false
  | .trailing => False

theorem Escape.isLineEnd_letter (e : Escape) : isLineEnd e.letter = false := by
  cases e <;> decide

theorem StringElement.fits_ofEscaped {quote c : Char} (h : isLineEnd c = false) :
    (ofEscaped c).Fits quote := by
  unfold ofEscaped
  split
  · trivial
  · next hc => exact ⟨hc, h⟩

/-- The body of a string: elements that fit, and behind them, if no quote closes the string, perhaps
a backslash at the end of the line. -/
def StringBody.WellFormed (quote : Char) (elements : List StringElement) (closed : Bool) : Prop :=
  ∃ es, (∀ e ∈ es, e.Fits quote) ∧
    (elements = es ∨ closed = false ∧ elements = es ++ [.trailing])

namespace StringBody

variable {quote : Char}

/-- What the loop knows of the elements in front carries over to all that it returns. -/
theorem wellFormed_splitFrom (read : List StringElement) (cs : List Char)
    (h : ∀ e ∈ read, e.Fits quote) :
    WellFormed quote (splitFrom quote read cs).elements (splitFrom quote read cs).closed := by
  have hread : ∀ e ∈ read.reverse, e.Fits quote := by
    intro e he
    exact h e (List.mem_reverse.1 he)
  fun_induction splitFrom quote read cs with
  | case1 read => exact ⟨read.reverse, hread, .inl rfl⟩
  | case2 read c cs hc => exact ⟨read.reverse, hread, .inl rfl⟩
  | case3 read c cs hc hq => exact ⟨read.reverse, hread, .inl rfl⟩
  | case4 read c hc hq hb => exact ⟨read.reverse, hread, .inr ⟨rfl, by simp⟩⟩
  | case5 read c hc hq hb d ds hd => exact ⟨read.reverse, hread, .inr ⟨rfl, by simp⟩⟩
  | case6 read c hc hq hb d ds hd ih =>
    have hcons : ∀ e ∈ .ofEscaped d :: read, e.Fits quote := by
      intro e he
      rcases List.mem_cons.1 he with rfl | he
      · exact StringElement.fits_ofEscaped (by simpa using hd)
      · exact h e he
    exact ih hcons (fun e he => hcons e (List.mem_reverse.1 he))
  | case7 read c cs hc hq hb ih =>
    have hcons : ∀ e ∈ .plain c :: read, e.Fits quote := by
      intro e he
      rcases List.mem_cons.1 he with rfl | he
      · exact ⟨by simpa using hc, by simpa using hq, by simpa using hb⟩
      · exact h e he
    exact ih hcons (fun e he => hcons e (List.mem_reverse.1 he))

/-- A string without a closing quote ends at the end of the line. -/
theorem isLineEnd_rest_splitFrom (read : List StringElement) (cs : List Char)
    (h : (splitFrom quote read cs).closed = false) :
    ∀ c ∈ (splitFrom quote read cs).rest.head?, isLineEnd c = true := by
  fun_induction splitFrom quote read cs with
  | case1 => simp
  | case2 read c cs hc => simpa using hc
  | case3 => contradiction
  | case4 => simp
  | case5 read c hc hq hb d ds hd => simpa using hd
  | case6 read c hc hq hb d ds hd ih => exact ih h
  | case7 read c cs hc hq hb ih => exact ih h

/-! ### What the loop does with one character -/

section

variable {c : Char} (read : List StringElement) (cs : List Char)

theorem splitFrom_lineEnd (hc : isLineEnd c = true) :
    splitFrom quote read (c :: cs) = ⟨read.reverse, false, c :: cs⟩ := by
  cases cs <;> simp [splitFrom, hc]

theorem splitFrom_quote (hc : isLineEnd quote = false) :
    splitFrom quote read (quote :: cs) = ⟨read.reverse, true, cs⟩ := by
  cases cs <;> simp [splitFrom, hc]

theorem splitFrom_plain (h : (StringElement.plain c).Fits quote) :
    splitFrom quote read (c :: cs) = splitFrom quote (.plain c :: read) cs := by
  obtain ⟨hc, hq, hb⟩ := h
  cases cs <;> simp [splitFrom, hc, hq, hb]

theorem splitFrom_escaped (hq : IsQuote quote) (hc : isLineEnd c = false) :
    splitFrom quote read ('\\' :: c :: cs) = splitFrom quote (.ofEscaped c :: read) cs := by
  have hb : ('\\' == quote) = false := by simpa using (ne_backslash_of_isQuote hq).symm
  have hl : isLineEnd '\\' = false := by decide
  simp [splitFrom, hb, hl, hc]

theorem splitFrom_trailing (hq : IsQuote quote) (hcs : ∀ c ∈ cs.head?, isLineEnd c = true) :
    splitFrom quote read ('\\' :: cs) = ⟨(.trailing :: read).reverse, false, cs⟩ := by
  have hb : ('\\' == quote) = false := by simpa using (ne_backslash_of_isQuote hq).symm
  have hl : isLineEnd '\\' = false := by decide
  cases cs with
  | nil => simp [splitFrom, hb, hl]
  | cons c cs => simp [splitFrom, hb, hl, hcs c rfl]

end

/-- Elements that fit are read one by one. -/
theorem splitFrom_elements (hq : IsQuote quote) {es : List StringElement}
    (h : ∀ e ∈ es, e.Fits quote) (read : List StringElement) (cs : List Char) :
    splitFrom quote read (es.flatMap StringElement.raw ++ cs) =
      splitFrom quote (es.reverse ++ read) cs := by
  induction es generalizing read with
  | nil => rfl
  | cons e es ih =>
    have hrest := ih (fun e' he' => h e' (List.mem_cons_of_mem _ he')) (e :: read)
    have he := h e List.mem_cons_self
    rw [List.flatMap_cons, List.append_assoc, List.reverse_cons, List.append_assoc]
    rw [List.singleton_append, ← hrest]
    cases e with
    | plain c => exact splitFrom_plain read _ he
    | escape e =>
      have := splitFrom_escaped read (es.flatMap StringElement.raw ++ cs) hq e.isLineEnd_letter
      simpa [StringElement.raw, StringElement.ofEscaped] using this
    | unknown c =>
      have := splitFrom_escaped read (es.flatMap StringElement.raw ++ cs) hq he.2
      simpa [StringElement.raw, StringElement.ofEscaped, he.1] using this
    | trailing => exact he.elim

/-- A well-formed body is split off in front of a text, which, if no quote closes the body, starts
with the end of a line. -/
theorem split_eq (hq : IsQuote quote) {elements : List StringElement} {closed : Bool}
    (h : WellFormed quote elements closed) {rest : List Char}
    (hrest : closed = false → ∀ c ∈ rest.head?, isLineEnd c = true) :
    StringBody.split quote (StringBody.raw quote ⟨elements, closed, []⟩ ++ rest) =
      ⟨elements, closed, rest⟩ := by
  obtain ⟨es, hes, helements⟩ := h
  unfold StringBody.split StringBody.raw
  cases closed with
  | true =>
    obtain rfl : elements = es := by simpa using helements
    have hquote : isLineEnd quote = false := by rcases hq with rfl | rfl <;> decide
    simp only [if_true, List.append_assoc, List.singleton_append]
    rw [splitFrom_elements hq hes, splitFrom_quote _ _ hquote]
    simp
  | false =>
    simp only [Bool.false_eq_true, if_false, List.append_nil]
    rcases helements with rfl | ⟨-, rfl⟩
    · rw [splitFrom_elements hq hes]
      cases rest with
      | nil => simp [splitFrom]
      | cons c cs =>
        rw [splitFrom_lineEnd _ _ (hrest rfl c rfl)]
        simp
    · rw [List.flatMap_append, List.append_assoc, splitFrom_elements hq hes]
      have := splitFrom_trailing (es.reverse ++ []) rest hq (hrest rfl)
      simpa [StringElement.raw] using this

end StringBody

/-! ## Lexemes -/

namespace Lexeme

/-- Whether the lexeme is written as its kind asks. -/
def WellFormed : Lexeme → Prop
  | .blanks cs => cs ≠ [] ∧ ∀ c ∈ cs, isInlineBlank c = true
  | .string quote body closed => IsQuote quote ∧ StringBody.WellFormed quote body closed
  | .number digits => digits ≠ [] ∧ ∀ c ∈ digits, c.isDigit = true
  | .word letters =>
    ∃ c cs, letters = c :: cs ∧ isWordStart c = true ∧ ∀ d ∈ cs, isWordPart d = true
  | .unknown c =>
    isBlank c = false ∧ ofMark? c = none ∧ ¬ IsQuote c ∧ c.isDigit = false ∧ isWordStart c = false
  | _ => True

/-- Whether the lexeme would be longer if the character stood behind it. -/
def takes : Lexeme → Char → Bool
  | .lineEnd .carriageReturn, c => c == '\n'
  | .blanks _, c => isInlineBlank c
  | .string _ _ false, c => !isLineEnd c
  | .number _, c => c.isDigit
  | .word _, c => isWordPart c
  | _, _ => false

/-- Whether the lexeme is as long as it can be in front of a text. -/
def Stops (l : Lexeme) (rest : List Char) : Prop := ∀ c ∈ rest.head?, l.takes c = false

theorem stops_nil (l : Lexeme) : l.Stops [] := by
  intro c hc
  simp at hc

theorem stops_cons {l : Lexeme} {c : Char} (h : l.takes c = false) (cs : List Char) :
    l.Stops (c :: cs) := by
  intro d hd
  obtain rfl := Option.some.inj hd
  exact h

/-- Only the first character of the text behind a lexeme matters. -/
theorem Stops.congr {l : Lexeme} {cs ds : List Char} (h : l.Stops cs) (hd : ds.head? = cs.head?) :
    l.Stops ds := by
  unfold Stops
  rw [hd]
  exact h

theorem WellFormed.raw_ne_nil {l : Lexeme} (h : l.WellFormed) : l.raw ≠ [] := by
  cases l with
  | lineEnd e => cases e <;> simp [raw, LineEnd.raw]
  | blanks cs => exact h.1
  | number digits => exact h.1
  | word letters =>
    obtain ⟨c, cs, rfl, -⟩ := h
    simp [raw]
  | _ => simp [raw]

/-! ### One equation for each kind of first character -/

theorem split_lineEnd {c : Char} {cs rest : List Char} {e : LineEnd}
    (h : LineEnd.split? c cs = some (e, rest)) : split c cs = (.lineEnd e, rest) := by
  simp [split, h]

theorem split_mark {c : Char} {l : Lexeme} (h : ofMark? c = some l) (cs : List Char) :
    split c cs = (l, cs) := by
  have hc : isLineEnd c = false := by
    cases hc : isLineEnd c with
    | false => rfl
    | true => rw [ofMark?_of_isBlank (isBlank_of_isLineEnd hc)] at h; contradiction
  simp [split, LineEnd.split?_eq_none hc, h]

theorem split_blanks {c : Char} (h : isInlineBlank c = true) (cs : List Char) :
    split c cs = (.blanks (c :: cs.takeWhile isInlineBlank), cs.dropWhile isInlineBlank) := by
  have hb := isBlank_of_isInlineBlank h
  simp [split, LineEnd.split?_eq_none (isLineEnd_of_isInlineBlank h), ofMark?_of_isBlank hb, hb]

theorem split_of_not_isBlank {c : Char} (hb : isBlank c = false) (hm : ofMark? c = none)
    (cs : List Char) :
    split c cs =
      if IsQuote c then
        (.string c (StringBody.split c cs).elements (StringBody.split c cs).closed,
          (StringBody.split c cs).rest)
      else if c.isDigit then (.number (c :: cs.takeWhile Char.isDigit), cs.dropWhile Char.isDigit)
      else if isWordStart c then (.word (c :: cs.takeWhile isWordPart), cs.dropWhile isWordPart)
      else (.unknown c, cs) := by
  simp only [split, LineEnd.split?_eq_none (isLineEnd_of_isBlank hb), hm, hb, Bool.false_eq_true,
    if_false]
  rfl

theorem split_string {c : Char} (h : IsQuote c) (cs : List Char) :
    split c cs =
      (.string c (StringBody.split c cs).elements (StringBody.split c cs).closed,
        (StringBody.split c cs).rest) := by
  have hc := toNat_of_isQuote h
  have hm : ofMark? c = none := ofMark?_of_toNat (by omega)
  rw [split_of_not_isBlank (isBlank_of_isQuote h) hm, if_pos h]

theorem split_number {c : Char} (h : c.isDigit = true) (cs : List Char) :
    split c cs = (.number (c :: cs.takeWhile Char.isDigit), cs.dropWhile Char.isDigit) := by
  have hc := toNat_of_isDigit h
  have hm : ofMark? c = none := ofMark?_of_toNat (by omega)
  have hq : ¬ IsQuote c := fun hq => by
    have := toNat_of_isQuote hq
    omega
  rw [split_of_not_isBlank (isBlank_of_isDigit h) hm, if_neg hq, if_pos h]

theorem split_word {c : Char} (h : isWordStart c = true) (cs : List Char) :
    split c cs = (.word (c :: cs.takeWhile isWordPart), cs.dropWhile isWordPart) := by
  have hc := toNat_of_isWordStart h
  have hm : ofMark? c = none := ofMark?_of_toNat (by omega)
  have hq : ¬ IsQuote c := fun hq => by
    have := toNat_of_isQuote hq
    omega
  have hd : ¬ c.isDigit = true := by simp [isDigit_of_isWordStart h]
  rw [split_of_not_isBlank (isBlank_of_isWordStart h) hm, if_neg hq, if_neg hd, if_pos h]

theorem split_unknown {c : Char} (h : (unknown c).WellFormed) (cs : List Char) :
    split c cs = (.unknown c, cs) := by
  obtain ⟨hb, hm, hq, hd, hw⟩ := h
  rw [split_of_not_isBlank hb hm, if_neg hq, if_neg (by simp [hd]), if_neg (by simp [hw])]

/-! ### The first lexeme is as long as it can be -/

/-- What the first lexeme of a text can be, and what it is then. -/
theorem split_cases (c : Char) (cs : List Char) :
    (∃ e rest, LineEnd.split? c cs = some (e, rest) ∧ split c cs = (.lineEnd e, rest)) ∨
    (∃ l, ofMark? c = some l ∧ split c cs = (l, cs)) ∨
    (isInlineBlank c = true ∧
      split c cs = (.blanks (c :: cs.takeWhile isInlineBlank), cs.dropWhile isInlineBlank)) ∨
    (IsQuote c ∧ split c cs =
      (.string c (StringBody.split c cs).elements (StringBody.split c cs).closed,
        (StringBody.split c cs).rest)) ∨
    (c.isDigit = true ∧
      split c cs = (.number (c :: cs.takeWhile Char.isDigit), cs.dropWhile Char.isDigit)) ∨
    (isWordStart c = true ∧
      split c cs = (.word (c :: cs.takeWhile isWordPart), cs.dropWhile isWordPart)) ∨
    ((unknown c).WellFormed ∧ split c cs = (.unknown c, cs)) := by
  cases he : LineEnd.split? c cs with
  | some r => exact .inl ⟨r.1, r.2, rfl, split_lineEnd he⟩
  | none =>
  cases hm : ofMark? c with
  | some l => exact .inr (.inl ⟨l, rfl, split_mark hm cs⟩)
  | none =>
  by_cases hi : isInlineBlank c = true
  · exact .inr (.inr (.inl ⟨hi, split_blanks hi cs⟩))
  by_cases hq : IsQuote c
  · exact .inr (.inr (.inr (.inl ⟨hq, split_string hq cs⟩)))
  by_cases hd : c.isDigit = true
  · exact .inr (.inr (.inr (.inr (.inl ⟨hd, split_number hd cs⟩))))
  by_cases hw : isWordStart c = true
  · exact .inr (.inr (.inr (.inr (.inr (.inl ⟨hw, split_word hw cs⟩)))))
  have hl := LineEnd.isLineEnd_of_split?_eq_none he
  have hb : isBlank c = false := by simpa [isInlineBlank, hl] using hi
  have hu : (unknown c).WellFormed := ⟨hb, hm, hq, by simpa using hd, by simpa using hw⟩
  exact .inr (.inr (.inr (.inr (.inr (.inr ⟨hu, split_unknown hu cs⟩)))))

theorem wellFormed_split (c : Char) (cs : List Char) : (split c cs).1.WellFormed := by
  rcases split_cases c cs with ⟨e, rest, -, h⟩ | ⟨l, hm, h⟩ | ⟨hi, h⟩ | ⟨hq, h⟩ | ⟨hd, h⟩ |
    ⟨hw, h⟩ | ⟨hu, h⟩ <;> rw [h]
  · trivial
  · unfold ofMark? at hm
    split at hm <;> cases hm <;> trivial
  · refine ⟨by simp, fun d hd => ?_⟩
    rcases List.mem_cons.1 hd with rfl | hd
    · exact hi
    · exact List.mem_takeWhile_imp hd
  · exact ⟨hq, StringBody.wellFormed_splitFrom [] cs (by simp)⟩
  · refine ⟨by simp, fun e he => ?_⟩
    rcases List.mem_cons.1 he with rfl | he
    · exact hd
    · exact List.mem_takeWhile_imp he
  · exact ⟨c, _, rfl, hw, fun d hd => List.mem_takeWhile_imp hd⟩
  · exact hu

theorem stops_split (c : Char) (cs : List Char) : (split c cs).1.Stops (split c cs).2 := by
  rcases split_cases c cs with ⟨e, rest, he, h⟩ | ⟨l, hm, h⟩ | ⟨-, h⟩ | ⟨hq, h⟩ | ⟨-, h⟩ |
    ⟨-, h⟩ | ⟨-, h⟩ <;> rw [h] <;> intro d hd
  · cases e with
    | carriageReturn => exact LineEnd.ne_lineFeed_of_split? he hd
    | _ => rfl
  · unfold ofMark? at hm
    split at hm <;> cases hm <;> rfl
  · exact head?_dropWhile hd
  · cases hc : (StringBody.split c cs).closed with
    | true => rfl
    | false =>
      have := StringBody.isLineEnd_rest_splitFrom [] cs hc d hd
      simp [takes, this]
  · exact head?_dropWhile hd
  · exact head?_dropWhile hd
  · rfl

/-! ### A lexeme in front of a text -/

theorem split_lineEnd_front {e : LineEnd} {c : Char} {cs rest : List Char}
    (hs : (lineEnd e).Stops rest) (hraw : e.raw = c :: cs) :
    LineEnd.split? c (cs ++ rest) = some (e, rest) := by
  cases e with
  | carriageReturn =>
    obtain ⟨rfl, rfl⟩ := List.cons.inj hraw
    cases rest with
    | nil => rfl
    | cons d ds =>
      have hd : d ≠ '\n' := by simpa [Stops, takes] using hs
      unfold LineEnd.split?
      split <;> simp_all
  | _ =>
    obtain ⟨rfl, rfl⟩ := List.cons.inj hraw
    rfl

/-- **A well-formed lexeme that stops before a text is split off in front of it.** -/
theorem split_eq {l : Lexeme} {c : Char} {cs rest : List Char} (h : l.WellFormed)
    (hs : l.Stops rest) (hraw : l.raw = c :: cs) : split c (cs ++ rest) = (l, rest) := by
  cases l with
  | lineEnd e => exact split_lineEnd (split_lineEnd_front hs hraw)
  | blanks ds =>
    obtain rfl : ds = c :: cs := hraw
    have hcs := fun d hd => h.2 d (List.mem_cons_of_mem c hd)
    rw [split_blanks (h.2 c List.mem_cons_self), takeWhile_front hcs hs, dropWhile_front hcs hs]
  | equals | colon | semicolon =>
    obtain ⟨rfl, rfl⟩ := List.cons.inj hraw
    exact split_mark rfl _
  | string quote body closed =>
    obtain ⟨rfl, hcs⟩ := List.cons.inj hraw
    have hbody : cs = StringBody.raw quote ⟨body, closed, []⟩ := hcs.symm
    have hrest : closed = false → ∀ d ∈ rest.head?, isLineEnd d = true := by
      rintro rfl d hd
      simpa [takes] using hs d hd
    rw [split_string h.1, hbody, StringBody.split_eq h.1 h.2 hrest]
  | number ds =>
    obtain rfl : ds = c :: cs := hraw
    have hcs := fun d hd => h.2 d (List.mem_cons_of_mem c hd)
    rw [split_number (h.2 c List.mem_cons_self), takeWhile_front hcs hs, dropWhile_front hcs hs]
  | word ds =>
    obtain ⟨d, ds, rfl, hd, hcs⟩ := h
    obtain ⟨rfl, rfl⟩ := List.cons.inj hraw
    rw [split_word hd, takeWhile_front hcs hs, dropWhile_front hcs hs]
  | unknown d =>
    obtain ⟨rfl, rfl⟩ := List.cons.inj hraw
    exact split_unknown h _

end Lexeme

/-! ## Rows of lexemes -/

/-- A row of well-formed lexemes, each one as long as it can be in front of what is written behind
it; behind the row stands a text. -/
def Apart (behind : List Char) : List Lexeme → Prop
  | [] => True
  | l :: ls => l.WellFormed ∧ l.Stops (ls.flatMap Lexeme.raw ++ behind) ∧ Apart behind ls

namespace Apart

variable {behind : List Char} {ls ms : List Lexeme}

theorem append_iff :
    Apart behind (ls ++ ms) ↔ Apart (ms.flatMap Lexeme.raw ++ behind) ls ∧ Apart behind ms := by
  induction ls with
  | nil => simp [Apart]
  | cons l ls ih => simp [Apart, ih, and_assoc]

theorem wellFormed (h : Apart behind ls) : ∀ l ∈ ls, l.WellFormed := by
  induction ls with
  | nil => simp
  | cons l ls ih =>
    intro m hm
    rcases List.mem_cons.1 hm with rfl | hm
    · exact h.1
    · exact ih h.2.2 m hm

/-- Only the first character behind a row matters. -/
theorem congr {behind' : List Char} (h : Apart behind ls) (hb : behind'.head? = behind.head?) :
    Apart behind' ls := by
  induction ls with
  | nil => trivial
  | cons l ls ih =>
    obtain ⟨hl, hs, hls⟩ := h
    refine ⟨hl, hs.congr ?_, ih hls⟩
    rw [List.head?_append, List.head?_append, hb]

end Apart

theorem flatMap_raw_lexemes (cs : List Char) : (lexemes cs).flatMap Lexeme.raw = cs := by
  induction hn : cs.length using Nat.strongRecOn generalizing cs with
  | _ n ih =>
    cases cs with
    | nil => simp
    | cons c cs =>
      have hlt := Lexeme.length_split_lt c cs
      rw [lexemes_cons, List.flatMap_cons, ih _ (hn ▸ hlt) _ rfl, Lexeme.raw_split]

theorem apart_lexemes (cs : List Char) : Apart [] (lexemes cs) := by
  induction hn : cs.length using Nat.strongRecOn generalizing cs with
  | _ n ih =>
    cases cs with
    | nil => simp [Apart]
    | cons c cs =>
      have hlt := Lexeme.length_split_lt c cs
      rw [lexemes_cons]
      refine ⟨Lexeme.wellFormed_split c cs, ?_, ih _ (hn ▸ hlt) _ rfl⟩
      rw [flatMap_raw_lexemes, List.append_nil]
      exact Lexeme.stops_split c cs

/-- **A row that stops before a text keeps its lexemes in front of it.** -/
theorem lexemes_append {behind : List Char} {ls : List Lexeme} (h : Apart behind ls) :
    lexemes (ls.flatMap Lexeme.raw ++ behind) = ls ++ lexemes behind := by
  induction ls with
  | nil => rfl
  | cons l ls ih =>
    obtain ⟨hl, hs, hls⟩ := h
    obtain ⟨c, cs, hraw⟩ := List.exists_cons_of_ne_nil hl.raw_ne_nil
    have hsplit := Lexeme.split_eq hl hs hraw
    rw [List.flatMap_cons, List.append_assoc, hraw, List.cons_append, lexemes_cons, hsplit]
    rw [ih hls, List.cons_append]

/-- **The lexemes of a text are the only row of longest lexemes that is written like the text.** -/
theorem lexemes_eq_iff {cs : List Char} {ls : List Lexeme} :
    lexemes cs = ls ↔ ls.flatMap Lexeme.raw = cs ∧ Apart [] ls := by
  constructor
  · rintro rfl
    exact ⟨flatMap_raw_lexemes cs, apart_lexemes cs⟩
  · rintro ⟨rfl, h⟩
    simpa using lexemes_append h

end ScriptCheck
