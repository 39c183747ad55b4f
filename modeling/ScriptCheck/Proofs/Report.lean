import Mathlib.Data.List.Basic
import ScriptCheck.Compilation
import ScriptCheck.Proofs.Lists

/-!
# Reporting token by token

The errors of the lexemes and those of reading come out in one row. Neither row of errors loses any,
and each one keeps its order.

* `reportByToken_here`, `reportByToken_later` — what is reported at one lexeme
* `filter_lexical_reportByToken`, `filter_grammatical_reportByToken` — both rows are still there
* `reportByToken_eq_nil_iff` — nothing is reported exactly if nothing is wrong
* `reportByToken_append` — errors that are all in their places are reported part by part
* `reportByToken_eq_flatMap` — what is reported, lexeme by lexeme
-/

namespace ScriptCheck

/-- What was reported so far only stands in front. -/
theorem reportByTokenFrom_eq (reported : List Diagnostic) (ls : List PlacedLexeme)
    (es : List ParseError) :
    reportByTokenFrom reported ls es = reported.reverse ++ reportByToken ls es := by
  unfold reportByToken
  induction ls generalizing reported es with
  | nil => simp [reportByTokenFrom]
  | cons l ls ih =>
    have hrev (ds : List Diagnostic) :
        ((l.errors.map LexError.toDiagnostic).reverse ++ ds).reverse =
          ds.reverse ++ l.errors.map LexError.toDiagnostic := by simp
    cases es with
    | nil =>
      simp only [reportByTokenFrom]
      rw [ih, ih (_ ++ []), hrev, hrev]
      simp
    | cons e es =>
      simp only [reportByTokenFrom]
      split
      · rw [ih, ih (e.toDiagnostic :: _), List.reverse_cons, List.reverse_cons, hrev, hrev]
        simp
      · rw [ih, ih (_ ++ []), hrev, hrev]
        simp

@[simp] theorem reportByToken_nil (es : List ParseError) :
    reportByToken [] es = es.map ParseError.toDiagnostic := by
  simp [reportByToken, reportByTokenFrom]

/-- A lexeme at whose token there is an error. -/
theorem reportByToken_here {l : PlacedLexeme} {e : ParseError} (h : e.pos = l.pos)
    (ls : List PlacedLexeme) (es : List ParseError) :
    reportByToken (l :: ls) (e :: es) =
      l.errors.map LexError.toDiagnostic ++ e.toDiagnostic :: reportByToken ls es := by
  rw [reportByToken, reportByTokenFrom]
  simp only [h, if_true]
  rw [reportByTokenFrom_eq]
  simp

/-- A lexeme at whose token there is no error. -/
theorem reportByToken_later {l : PlacedLexeme} {es : List ParseError}
    (h : ∀ e ∈ es.head?, e.pos ≠ l.pos) (ls : List PlacedLexeme) :
    reportByToken (l :: ls) es =
      l.errors.map LexError.toDiagnostic ++ reportByToken ls es := by
  rw [reportByToken]
  cases es with
  | nil =>
    simp only [reportByTokenFrom]
    rw [reportByTokenFrom_eq]
    simp
  | cons e es =>
    simp only [reportByTokenFrom, if_neg (h e rfl)]
    rw [reportByTokenFrom_eq]
    simp

/-- Without errors of reading, those of the lexemes are reported. -/
theorem reportByToken_lexemes (ls : List PlacedLexeme) :
    reportByToken ls [] = (ls.flatMap PlacedLexeme.errors).map LexError.toDiagnostic := by
  induction ls with
  | nil => rfl
  | cons l ls ih =>
    rw [reportByToken_later (by simp), ih, List.flatMap_cons, List.map_append]

/-- Whatever is reported of a lexeme and the errors at hand, the lexeme's own errors come first. -/
theorem reportByToken_cons (l : PlacedLexeme) (ls : List PlacedLexeme) (es : List ParseError) :
    ∃ here later, es = here ++ later ∧
      reportByToken (l :: ls) es = l.errors.map LexError.toDiagnostic ++
        here.map ParseError.toDiagnostic ++ reportByToken ls later := by
  obtain ⟨e, later, rfl, h⟩ | h := head_cases (·.pos = l.pos) es
  · refine ⟨[e], later, rfl, ?_⟩
    rw [reportByToken_here h]
    simp
  · refine ⟨[], es, rfl, ?_⟩
    rw [reportByToken_later h]
    simp

section

variable {α : Type} (toDiagnostic : α → Diagnostic) (stage : Stage)

theorem filter_stage_eq_self (h : ∀ e, (toDiagnostic e).stage = stage) (es : List α) :
    (es.map toDiagnostic).filter (·.stage = stage) = es.map toDiagnostic := by
  rw [List.filter_eq_self]
  intro d hd
  obtain ⟨e, -, rfl⟩ := List.mem_map.1 hd
  simpa using h e

theorem filter_stage_eq_nil (h : ∀ e, (toDiagnostic e).stage ≠ stage) (es : List α) :
    (es.map toDiagnostic).filter (·.stage = stage) = [] := by
  rw [List.filter_eq_nil_iff]
  intro d hd
  obtain ⟨e, -, rfl⟩ := List.mem_map.1 hd
  simpa using h e

end

/-- **No error of a lexeme is lost, and their order stays.** -/
theorem filter_lexical_reportByToken (ls : List PlacedLexeme) (es : List ParseError) :
    (reportByToken ls es).filter (·.stage = .lexical) =
      (ls.flatMap PlacedLexeme.errors).map LexError.toDiagnostic := by
  have hlexical := filter_stage_eq_self LexError.toDiagnostic .lexical fun _ => rfl
  have hgrammatical := filter_stage_eq_nil ParseError.toDiagnostic .lexical nofun
  induction ls generalizing es with
  | nil =>
    rw [reportByToken_nil, hgrammatical]
    rfl
  | cons l ls ih =>
    obtain ⟨here, later, -, hreport⟩ := reportByToken_cons l ls es
    rw [hreport, List.filter_append, List.filter_append, hlexical, hgrammatical, ih,
      List.flatMap_cons, List.map_append, List.append_nil]

/-- **No error of reading is lost, and their order stays.** -/
theorem filter_grammatical_reportByToken (ls : List PlacedLexeme) (es : List ParseError) :
    (reportByToken ls es).filter (·.stage = .grammatical) = es.map ParseError.toDiagnostic := by
  have hlexical := filter_stage_eq_nil LexError.toDiagnostic .grammatical nofun
  have hgrammatical := filter_stage_eq_self ParseError.toDiagnostic .grammatical fun _ => rfl
  induction ls generalizing es with
  | nil => rw [reportByToken_nil, hgrammatical]
  | cons l ls ih =>
    obtain ⟨here, later, rfl, hreport⟩ := reportByToken_cons l ls es
    rw [hreport, List.filter_append, List.filter_append, hlexical, hgrammatical, ih,
      List.nil_append, List.map_append]

/-- Nothing but these errors is reported. -/
theorem reportByToken_eq_nil_iff (ls : List PlacedLexeme) (es : List ParseError) :
    reportByToken ls es = [] ↔ ls.flatMap PlacedLexeme.errors = [] ∧ es = [] := by
  induction ls generalizing es with
  | nil => simp
  | cons l ls ih =>
    obtain ⟨here, later, rfl, hreport⟩ := reportByToken_cons l ls es
    rw [hreport]
    simp only [List.append_eq_nil_iff, List.map_eq_nil_iff, ih, List.flatMap_cons]
    constructor
    · rintro ⟨⟨hl, hhere⟩, hls, hlater⟩
      exact ⟨⟨hl, hls⟩, hhere, hlater⟩
    · rintro ⟨⟨hl, hls⟩, hhere, hlater⟩
      exact ⟨⟨hl, hhere⟩, hls, hlater⟩

/-- **Two parts of a source are reported one behind the other, if the errors of the first part are
at its lexemes, in their order, and those of the second part are not.** -/
theorem reportByToken_append {ls : List PlacedLexeme} {es fs : List ParseError}
    (hes : (es.map ParseError.pos).Sublist (ls.map PlacedLexeme.pos))
    (hfs : ∀ e ∈ fs, ∀ l ∈ ls, e.pos ≠ l.pos) (ms : List PlacedLexeme) :
    reportByToken (ls ++ ms) (es ++ fs) = reportByToken ls es ++ reportByToken ms fs := by
  induction ls generalizing es with
  | nil =>
    obtain rfl := List.map_eq_nil_iff.1 (List.sublist_nil.1 hes)
    rw [reportByToken_nil]
    rfl
  | cons l ls ih =>
    have htail : ∀ e ∈ fs, ∀ m ∈ ls, e.pos ≠ m.pos :=
      fun e he m hm => hfs e he m (List.mem_cons_of_mem l hm)
    obtain ⟨e, later, rfl, he⟩ | hhead := head_cases (·.pos = l.pos) es
    · rw [List.map_cons, List.map_cons, he, List.cons_sublist_cons] at hes
      rw [List.cons_append, List.cons_append, reportByToken_here he, reportByToken_here he,
        ih hes htail]
      simp
    · -- the first error is not at this lexeme, whichever part it belongs to
      have hheads : ∀ e ∈ (es ++ fs).head?, e.pos ≠ l.pos := by
        intro e he
        rcases List.mem_append.1 (List.mem_of_mem_head? he) with hmem | hmem
        · refine hhead e ?_
          obtain ⟨e', es, rfl⟩ := List.exists_cons_of_ne_nil (List.ne_nil_of_mem hmem)
          exact he
        · exact hfs e hmem l List.mem_cons_self
      have hes : (es.map ParseError.pos).Sublist (ls.map PlacedLexeme.pos) := by
        cases es with
        | nil => exact List.nil_sublist _
        | cons e es =>
          rcases List.sublist_cons_iff.1 hes with hes | ⟨later, hlater, -⟩
          · exact hes
          · exact absurd (List.cons.inj hlater).1 (hhead e rfl)
      rw [List.cons_append, reportByToken_later hheads, reportByToken_later hhead, ih hes htail,
        List.append_assoc]

/-! ## One group for each lexeme -/

/-- What is reported at a lexeme: its errors, and those of reading at its token. -/
def PlacedLexeme.reports (es : List ParseError) (l : PlacedLexeme) : List Diagnostic :=
  l.errors.map LexError.toDiagnostic ++
    (es.filter (·.pos = l.pos)).map ParseError.toDiagnostic

theorem mem_reports {es : List ParseError} {l : PlacedLexeme} {d : Diagnostic} :
    d ∈ l.reports es ↔ (∃ e ∈ l.errors, d = e.toDiagnostic) ∨
      ∃ e ∈ es, e.pos = l.pos ∧ d = e.toDiagnostic := by
  simp [PlacedLexeme.reports, and_assoc, eq_comm]

/-- An error at another place does not matter for a lexeme. -/
theorem reports_cons_of_ne {l : PlacedLexeme} {e : ParseError} (h : e.pos ≠ l.pos)
    (es : List ParseError) : l.reports (e :: es) = l.reports es := by
  rw [PlacedLexeme.reports, List.filter_cons_of_neg (by simpa using h)]
  rfl

/-- Errors at other places do not either. -/
theorem reports_of_forall_ne {l : PlacedLexeme} {es : List ParseError}
    (h : ∀ e ∈ es, e.pos ≠ l.pos) : l.reports es = l.errors.map LexError.toDiagnostic := by
  rw [PlacedLexeme.reports, List.filter_eq_nil_iff.2 (by simpa using h), List.map_nil,
    List.append_nil]

theorem reports_cons_self {l : PlacedLexeme} {e : ParseError} {es : List ParseError}
    (he : e.pos = l.pos) (h : ∀ e ∈ es, e.pos ≠ l.pos) :
    l.reports (e :: es) = l.errors.map LexError.toDiagnostic ++ [e.toDiagnostic] := by
  rw [PlacedLexeme.reports, List.filter_cons_of_pos (by simpa using he),
    List.filter_eq_nil_iff.2 (by simpa using h)]
  rfl

/-- Errors at later lexemes and at the end of the input are not at the first lexeme. -/
theorem pos_ne_of_sublist {l : PlacedLexeme} {ls : List PlacedLexeme} {es : List ParseError}
    {inputEnd : Nat} (hls : ∀ m ∈ ls, l.pos < m.pos) (hend : l.pos < inputEnd)
    (hes : (es.map ParseError.pos).Sublist (ls.map PlacedLexeme.pos ++ [inputEnd])) :
    ∀ e ∈ es, e.pos ≠ l.pos := by
  intro e he
  rcases List.mem_append.1 (hes.subset (List.mem_map_of_mem he)) with hmem | hmem
  · obtain ⟨m, hm, hpos⟩ := List.mem_map.1 hmem
    have := hls m hm
    omega
  · have := List.mem_singleton.1 hmem
    omega

/-- **Lexemes in order, and errors of reading at them and at the end of the input in the same order:
what is reported are the groups of the lexemes and then the error at the end.** -/
theorem reportByToken_eq_flatMap {ls : List PlacedLexeme} {es : List ParseError} {inputEnd : Nat}
    (hls : ls.Pairwise (·.pos < ·.pos)) (hend : ∀ l ∈ ls, l.pos < inputEnd)
    (hes : (es.map ParseError.pos).Sublist (ls.map PlacedLexeme.pos ++ [inputEnd])) :
    reportByToken ls es = ls.flatMap (PlacedLexeme.reports es) ++
      (es.filter (·.pos = inputEnd)).map ParseError.toDiagnostic := by
  induction ls generalizing es with
  | nil =>
    have hall : ∀ e ∈ es, e.pos = inputEnd := by
      intro e he
      simpa using hes.subset (List.mem_map_of_mem he)
    rw [reportByToken_nil, List.filter_eq_self.2 (by simpa using hall)]
    rfl
  | cons l ls ih =>
    obtain ⟨hl, hls⟩ := List.pairwise_cons.1 hls
    have hlend := hend l List.mem_cons_self
    have hend' : ∀ m ∈ ls, m.pos < inputEnd := fun m hm => hend m (List.mem_cons_of_mem l hm)
    rw [List.map_cons, List.cons_append, List.sublist_cons_iff] at hes
    rw [List.flatMap_cons]
    rcases hes with hes | ⟨poses, heq, hes⟩
    · have hne := pos_ne_of_sublist hl hlend hes
      rw [reportByToken_later (fun e he => hne e (List.mem_of_mem_head? he)), ih hls hend' hes,
        reports_of_forall_ne hne, List.append_assoc]
    · obtain ⟨e, es, rfl, he, rfl⟩ := List.map_eq_cons_iff.1 heq
      have hgroups : ls.flatMap (PlacedLexeme.reports (e :: es)) =
          ls.flatMap (PlacedLexeme.reports es) :=
        List.flatMap_congr fun m hm => reports_cons_of_ne (by have := hl m hm; omega) es
      rw [reportByToken_here he, ih hls hend' hes, hgroups,
        reports_cons_self he (pos_ne_of_sublist hl hlend hes),
        List.filter_cons_of_neg (by simp; omega)]
      simp

end ScriptCheck
