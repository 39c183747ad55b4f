import ScriptCheck.Proofs.Diagnostics

/-!
# When diagnostics come in the order of their places

Diagnostics of different lexemes always come in the order of their places. Those of one lexeme do
not, if it is a string with an unknown escape in it: the escape is found first, while a missing
quote and a string in the wrong place are reported at the beginning of the string.

* `errors_sorted_iff` — when the errors of a lexeme are in order
* `diagnostics_sorted_iff` — when the diagnostics of a script are
-/

namespace ScriptCheck

open Text

/-! ## The errors of a lexeme -/

namespace StringElement

/-- The errors of the elements of a string are in order. -/
theorem pairwise_pos_errors (pos : Nat) (es : List StringElement) :
    (errors pos es).Pairwise (·.pos ≤ ·.pos) := by
  induction es generalizing pos with
  | nil => exact .nil
  | cons x es ih =>
    rw [errors, List.pairwise_append]
    refine ⟨?_, ih _, fun e he f hf => ?_⟩
    · cases x.error? pos with
      | none => exact .nil
      | some e => exact List.pairwise_singleton _ e
    · obtain ⟨_, _, -, hpos⟩ := exists_backslash hf
      cases x with
      | unknown c =>
        obtain rfl := List.mem_singleton.1 he
        dsimp only
        omega
      | _ => contradiction

/-- Only unknown escapes are errors. -/
theorem exists_mem_errors_iff (pos : Nat) (es : List StringElement) :
    (∃ e, e ∈ errors pos es) ↔ ∃ c, .unknown c ∈ es := by
  induction es generalizing pos with
  | nil => simp [errors]
  | cons x es ih =>
    cases x with
    | unknown c => simp [errors, error?]
    | _ => simp [errors, error?, ih]

end StringElement

namespace Lexeme

/-- Whether the lexeme is a string with an unknown escape in it. -/
def HasUnknownEscape : Lexeme → Prop
  | .string _ body _ => ∃ c, .unknown c ∈ body
  | _ => False

/-- Whether the lexeme is a string without a closing quote. -/
def Unterminated : Lexeme → Prop
  | .string _ _ closed => closed = false
  | _ => False

variable {l : Lexeme} {pos : Nat}

/-- An unknown escape is behind the beginning of its string. -/
theorem lt_of_mem_errors_body {quote : Char} {body : List StringElement} {e : LexError}
    (he : e ∈ StringElement.errors (pos + quote.utf8Size) body) : pos < e.pos := by
  have hquote := quote.utf8Size_pos
  obtain ⟨_, _, -, hpos⟩ := StringElement.exists_backslash he
  omega

/-- **The errors of a lexeme are in order, unless it is a string with an unknown escape and no
closing quote.** -/
theorem errors_sorted_iff :
    (l.errors pos).Pairwise (·.pos ≤ ·.pos) ↔ (l.HasUnknownEscape → ¬ l.Unterminated) := by
  cases l with
  | string quote body closed =>
    have hbody := StringElement.pairwise_pos_errors (pos + quote.utf8Size) body
    simp only [errors, HasUnknownEscape, Unterminated, List.pairwise_append,
      ← StringElement.exists_mem_errors_iff (pos + quote.utf8Size) body]
    cases closed with
    | true => simp [hbody]
    | false =>
      constructor
      · rintro ⟨-, -, hle⟩ ⟨e, he⟩
        have hstart : e.pos ≤ pos := hle e he _ (List.mem_singleton_self _)
        have := lt_of_mem_errors_body he
        omega
      · intro hnone
        refine ⟨hbody, List.pairwise_singleton _ _, fun e he => ?_⟩
        exact absurd rfl (hnone ⟨e, he⟩)
  | unknown c => simp [errors, HasUnknownEscape]
  | _ => simp [errors, HasUnknownEscape]

/-- The errors of a lexeme are at its beginning, unless it is a string with an unknown escape. -/
theorem errors_at_start_iff :
    (∀ e ∈ l.errors pos, e.pos ≤ pos) ↔ ¬ l.HasUnknownEscape := by
  cases l with
  | string quote body closed =>
    simp only [errors, HasUnknownEscape,
      ← StringElement.exists_mem_errors_iff (pos + quote.utf8Size) body]
    constructor
    · rintro hle ⟨e, he⟩
      have := hle e (List.mem_append_left _ he)
      have := lt_of_mem_errors_body he
      omega
    · intro hnone e he
      rcases List.mem_append.1 he with he | he
      · exact absurd ⟨e, he⟩ hnone
      · cases closed with
        | true => contradiction
        | false => simp_all
  | unknown c => simp [errors, HasUnknownEscape]
  | _ => simp [errors, HasUnknownEscape]

end Lexeme

/-! ## The diagnostics of a script -/

section

variable {source : String} {l m : PlacedLexeme}

/-- Lexemes that stand in order have their bytes in order. -/
theorem end_le_of_pos_lt (hl : l ∈ scan source) (hm : m ∈ scan source) (h : l.pos < m.pos) :
    l.pos + byteSize l.lexeme.raw ≤ m.pos := by
  by_contra hlt
  have hlpos : l.Covers m.pos := ⟨Nat.le_of_lt h, by omega⟩
  have hmpos : m.Covers m.pos := ⟨Nat.le_refl _, by have := byteSize_raw_pos hm; omega⟩
  rw [eq_of_covers hl hm hlpos hmpos] at h
  exact absurd h (Nat.lt_irrefl _)

/-- **The diagnostics of a lexeme are in order, unless it is a string with an unknown escape, and
has no closing quote or stands in the wrong place.** -/
theorem reports_sorted_iff :
    (l.reports (readErrors source)).Pairwise (·.pos ≤ ·.pos) ↔
      (l.lexeme.HasUnknownEscape →
        ¬ l.lexeme.Unterminated ∧ ∀ f ∈ readErrors source, f.pos ≠ l.pos) := by
  have herrors : (l.errors.map LexError.toDiagnostic).Pairwise (·.pos ≤ ·.pos) ↔
      (l.lexeme.HasUnknownEscape → ¬ l.lexeme.Unterminated) := by
    rw [List.pairwise_map]
    exact Lexeme.errors_sorted_iff
  have hstart : (∀ e ∈ l.errors, e.pos ≤ l.pos) ↔ ¬ l.lexeme.HasUnknownEscape :=
    Lexeme.errors_at_start_iff
  rw [pairwise_reports_iff, herrors]
  constructor
  · rintro ⟨hclosed, hplace⟩ hescape
    refine ⟨hclosed hescape, fun f hf hpos => hstart.1 (fun e he => ?_) hescape⟩
    rw [← hpos]
    exact hplace e he f hf hpos
  · intro h
    refine ⟨fun hescape => (h hescape).1, fun e he f hf hpos => ?_⟩
    have hnone : ¬ l.lexeme.HasUnknownEscape := fun hescape => (h hescape).2 f hf hpos
    have := hstart.2 hnone e he
    show e.pos ≤ f.pos
    omega

/-- The errors of reading are the diagnostics of that stage. -/
theorem exists_readError_iff {pos : Nat} :
    (∃ f ∈ readErrors source, f.pos = pos) ↔
      ∃ d ∈ (parse source).diagnostics, d.stage = .grammatical ∧ d.pos = pos := by
  have hfilter := filter_grammatical_parse source
  constructor
  · rintro ⟨f, hf, hpos⟩
    have hmem : f.toDiagnostic ∈ (parse source).diagnostics.filter (·.stage = .grammatical) :=
      hfilter ▸ List.mem_map_of_mem hf
    exact ⟨_, (List.mem_filter.1 hmem).1, rfl, hpos⟩
  · rintro ⟨d, hd, hstage, hpos⟩
    have hmem : d ∈ (parse source).diagnostics.filter (·.stage = .grammatical) :=
      List.mem_filter.2 ⟨hd, decide_eq_true hstage⟩
    rw [hfilter] at hmem
    obtain ⟨f, hf, rfl⟩ := List.mem_map.1 hmem
    exact ⟨f, hf, hpos⟩

end

/-- **The diagnostics of a script come in the order of their places exactly if every string with an
unknown escape in it has a closing quote and stands where reading finds nothing wrong.** -/
theorem diagnostics_sorted_iff (source : String) :
    ((parse source).diagnostics.map Diagnostic.pos).Pairwise (· ≤ ·) ↔
      ∀ l ∈ scan source, l.lexeme.HasUnknownEscape →
        ¬ l.lexeme.Unterminated ∧
          ¬ ∃ d ∈ (parse source).diagnostics, d.stage = .grammatical ∧ d.pos = l.pos := by
  rw [List.pairwise_map, pairwise_diagnostics_iff]
  · refine forall₂_congr fun l hl => ?_
    rw [reports_sorted_iff, ← exists_readError_iff]
    simp only [not_exists, not_and, ne_eq]
  · intro l hl m hm hlt d hd d' hd'
    have hend := end_le_of_pos_lt hl hm hlt
    have := (covers_of_mem_reports hl hd).2
    have := (covers_of_mem_reports hm hd').1
    omega
  · intro l hl d hd f _ hpos
    have hend := end_le_of_mem_scan hl
    have := (covers_of_mem_reports hl hd).2
    show d.pos ≤ f.pos
    omega

/-- A string with an unknown escape and no closing quote: what is found last is at its beginning. -/
theorem diagnostics_unsorted :
    (parse "\"\\q").diagnostics.map Diagnostic.pos = [1, 0] ∧
      ¬ ∀ source, ((parse source).diagnostics.map Diagnostic.pos).Pairwise (· ≤ ·) := by
  have hscan : scan "\"\\q" = [⟨0, .string '"' [.unknown 'q'] false⟩] := by
    have hbody : StringBody.WellFormed '"' [.unknown 'q'] false := by
      refine ⟨[.unknown 'q'], fun e he => ?_, .inl rfl⟩
      obtain rfl := List.mem_singleton.1 he
      exact ⟨rfl, by decide⟩
    have hlexemes : lexemes "\"\\q".toList = [.string '"' [.unknown 'q'] false] :=
      lexemes_eq_iff.2 ⟨rfl, ⟨.inl rfl, hbody⟩, Lexeme.stops_nil _, trivial⟩
    rw [scan, hlexemes]
    rfl
  have htokens : significantTokens (scan "\"\\q") = [⟨.string, 0, "\\q"⟩] := by
    rw [hscan]
    decide
  have hread : readErrors "\"\\q" = [] := by
    rw [readErrors, htokens, readStatements_round _ (by decide)]
    show (_ ++ readStatements _ []).errors = _
    rw [readStatements_nil]
    rfl
  have hposes : (parse "\"\\q").diagnostics.map Diagnostic.pos = [1, 0] := by
    rw [diagnostics_parse, hread, hscan]
    rfl
  refine ⟨hposes, fun h => ?_⟩
  have hsorted := h "\"\\q"
  rw [hposes] at hsorted
  simp at hsorted

end ScriptCheck
