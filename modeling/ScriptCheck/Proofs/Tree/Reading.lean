import Mathlib.Data.List.Basic
import ScriptCheck.Proofs.Tree.Grammar

/-!
# Reading goes on behind every terminator

No statement takes a terminator, and every round of reading ends behind one or at the end of the
text. So a text that ends with a terminator is read without regard to what stands behind it.

* `RoundOf` — what one round can come to
* `Ended` — a text that is empty or ends with a terminator
* `readRound_append`, `readStatements_append` — such a text is read as if it stood alone
* `errors_sublist` — where the errors are
-/

namespace ScriptCheck

/-! ## Rounds -/

/-- What a round that reads such a text can come to. -/
inductive RoundOf (inputEnd : Nat) : List Token → Round → Prop
  /-- A statement at the end of the text. -/
  | last {front : List Token} {s : Stmt} (hs : StatementPhrase front s) :
      RoundOf inputEnd front ⟨some s, none, []⟩
  /-- A statement and its terminator. -/
  | ended {front us : List Token} {s : Stmt} {u : Token} (hs : StatementPhrase front s)
      (hu : u.kind.isTerminator = true) : RoundOf inputEnd (front ++ u :: us) ⟨some s, none, us⟩
  /-- A statement, and something else behind it. -/
  | surplus {front us : List Token} {s : Stmt} {u : Token} (hs : StatementPhrase front s)
      (hu : u.kind.isTerminator = false)
      (hlook : ∀ more, readPhrase (front ++ u :: more) = .done s (u :: more)) :
      RoundOf inputEnd (front ++ u :: us)
        ⟨some s, some ⟨.expectedStatementEnd, u.pos⟩, skipStatement us⟩
  /-- The beginning of a statement that does not go on. -/
  | failed {front rest : List Token} {fault : ParseFault} (hfault : fault.InPhrase)
      (hmore : ∃ more s, StatementPhrase (front ++ more) s)
      (hlook : ∀ more, more.head? = rest.head? → readPhrase (front ++ more) = .failed fault more) :
      RoundOf inputEnd (front ++ rest)
        ⟨none, some (fault.locate inputEnd rest), skipStatement rest⟩

/-- How a round goes on behind a phrase. -/
def Outcome.round (inputEnd : Nat) : Outcome Stmt → Round
  | .failed fault left => ⟨none, some (fault.locate inputEnd left), skipStatement left⟩
  | .done s [] => ⟨some s, none, []⟩
  | .done s (u :: us) =>
    if u.kind.isTerminator then ⟨some s, none, us⟩
    else ⟨some s, some ⟨.expectedStatementEnd, u.pos⟩, skipStatement us⟩

theorem readRound_eq (inputEnd : Nat) (t : Token) (ts : List Token) :
    readRound inputEnd t ts = (readPhrase (t :: ts)).round inputEnd := by
  have hphrase : readPhrase (t :: ts) = readStatement t ts := rfl
  rw [hphrase]
  unfold readRound Outcome.round
  cases readStatement t ts with
  | failed fault left => rfl
  | done s rest => cases rest <;> rfl

/-- A round comes to one of these. -/
theorem roundOf_readRound (inputEnd : Nat) (t : Token) (ts : List Token) :
    RoundOf inputEnd (t :: ts) (readRound inputEnd t ts) := by
  rw [readRound_eq]
  obtain ⟨front, hts, hof, hlook⟩ := readPhrase_reads (t :: ts)
  cases ho : readPhrase (t :: ts) with
  | failed fault rest =>
    rw [ho] at hts hof hlook
    rw [hts]
    exact .failed hof.1 hof.2 hlook
  | done s rest =>
    rw [ho] at hts hof hlook
    rw [hts]
    cases rest with
    | nil =>
      simp only [Outcome.rest, List.append_nil]
      exact .last hof
    | cons u us =>
      cases hu : u.kind.isTerminator with
      | true =>
        simp only [Outcome.round, hu, if_true]
        exact .ended hof hu
      | false =>
        simp only [Outcome.round, hu, Bool.false_eq_true, if_false]
        exact .surplus hof hu fun more => hlook (u :: more) rfl

/-! ## Texts that end with a terminator -/

/-- Whether a text is empty or ends with a terminator. -/
def Ended (ts : List Token) : Prop := ∀ t ∈ ts.getLast?, t.kind.isTerminator = true

theorem Ended.nil : Ended [] := by
  intro t ht
  simp at ht

theorem Ended.of_append {ts us : List Token} (h : Ended (ts ++ us)) : Ended us := by
  intro t ht
  refine h t ?_
  obtain ⟨vs, rfl⟩ := List.getLast?_eq_some_iff.1 ht
  simp [← List.append_assoc]

theorem Ended.tail {t : Token} {ts : List Token} (h : Ended (t :: ts)) : Ended ts :=
  of_append (List.singleton_append ▸ h : Ended ([t] ++ ts))

theorem not_isTerminator_of_inPhrase {kind : TokenKind} (h : kind.InPhrase) :
    kind.isTerminator = false := by
  cases kind <;> first | rfl | exact h.elim

theorem not_inPhrase_of_isTerminator {kind : TokenKind} (h : kind.isTerminator = true) :
    ¬ kind.InPhrase := by
  intro hkind
  rw [not_isTerminator_of_inPhrase hkind] at h
  contradiction

theorem not_isTrivia_of_isTerminator {kind : TokenKind} (h : kind.isTerminator = true) :
    kind.isTrivia = false ∧ kind ≠ .ending := by
  cases kind <;> simp_all [TokenKind.isTerminator, TokenKind.isTrivia]

/-- A text that ends with a terminator still does without its trivia. -/
theorem Ended.filter {ts : List Token} (h : Ended ts) : Ended (ts.filter (!·.kind.isTrivia)) := by
  rcases List.eq_nil_or_concat ts with rfl | ⟨init, t, rfl⟩
  · exact .nil
  · rw [List.concat_eq_append] at h ⊢
    have ht : t.kind.isTerminator = true := h t (by simp)
    have htrivia := (not_isTrivia_of_isTerminator ht).1
    intro u hu
    obtain rfl : t = u := by simpa [List.filter_append, htrivia] using hu
    exact ht

/-- What is taken for a statement, or for the beginning of one, holds no terminator. -/
theorem Outcome.Of.not_isTerminator {front : List Token} {o : Outcome Stmt}
    (h : o.Of StatementPhrase front) : ∀ t ∈ front, t.kind.isTerminator = false := by
  intro t ht
  refine not_isTerminator_of_inPhrase ?_
  cases o with
  | done s rest => exact StatementPhrase.inPhrase h t ht
  | failed fault rest =>
    obtain ⟨-, more, s, hs⟩ := h
    exact hs.inPhrase t (List.mem_append_left more ht)

theorem skipStatement_append {ts : List Token} (h : Ended ts) (hne : ts ≠ []) (more : List Token) :
    skipStatement (ts ++ more) = skipStatement ts ++ more := by
  induction ts with
  | nil => contradiction
  | cons t ts ih =>
    rw [List.cons_append, skipStatement, skipStatement]
    split
    · rfl
    · next ht =>
      refine ih h.tail ?_
      rintro rfl
      exact ht (h t rfl)

theorem suffix_skipStatement (ts : List Token) : ∃ front, ts = front ++ skipStatement ts := by
  induction ts with
  | nil => exact ⟨[], rfl⟩
  | cons t ts ih =>
    rw [skipStatement]
    split
    · exact ⟨[t], rfl⟩
    · obtain ⟨front, hts⟩ := ih
      exact ⟨t :: front, by rw [List.cons_append, ← hts]⟩

theorem skipStatement_sublist (ts : List Token) : (skipStatement ts).Sublist ts := by
  obtain ⟨front, hts⟩ := suffix_skipStatement ts
  have hsub : (skipStatement ts).Sublist (front ++ skipStatement ts) :=
    List.sublist_append_right front _
  rwa [← hts] at hsub

theorem Ended.skipStatement {ts : List Token} (h : Ended ts) : Ended (skipStatement ts) := by
  obtain ⟨front, hts⟩ := suffix_skipStatement ts
  rw [hts] at h
  exact h.of_append

/-- A phrase in a text that ends with a terminator leaves some of it, whatever stands behind. -/
theorem readPhrase_append {ts : List Token} (h : Ended ts) (hne : ts ≠ []) (more : List Token) :
    readPhrase (ts ++ more) = (readPhrase ts).before ((readPhrase ts).rest ++ more) ∧
      (readPhrase ts).rest ≠ [] ∧ Ended (readPhrase ts).rest := by
  obtain ⟨front, hts, hof, hlook⟩ := readPhrase_reads ts
  -- if nothing were left, the last terminator would be part of the phrase
  have hrest : (readPhrase ts).rest ≠ [] := by
    intro hnil
    rw [hnil, List.append_nil] at hts
    obtain ⟨t, ht⟩ := Option.ne_none_iff_exists'.1 (mt List.getLast?_eq_none_iff.1 hne)
    have hmem : t ∈ front := by
      rw [← hts]
      exact List.mem_of_getLast? ht
    have hterminator := h t ht
    rw [hof.not_isTerminator t hmem] at hterminator
    contradiction
  refine ⟨?_, hrest, ?_⟩
  · have hhead : ((readPhrase ts).rest ++ more).head? = (readPhrase ts).rest.head? := by
      obtain ⟨u, us, hu⟩ := List.exists_cons_of_ne_nil hrest
      rw [hu]
      rfl
    rw [← hlook _ hhead, ← List.append_assoc, ← hts]
  · rw [hts] at h
    exact h.of_append

/-- **A round in a text that ends with a terminator is the same whatever stands behind, and wherever
the input ends.** -/
theorem readRound_append {t : Token} {ts : List Token} (h : Ended (t :: ts))
    (inputEnd inputEnd' : Nat) (more : List Token) :
    readRound inputEnd t (ts ++ more) =
        { readRound inputEnd' t ts with rest := (readRound inputEnd' t ts).rest ++ more } ∧
      Ended (readRound inputEnd' t ts).rest := by
  obtain ⟨happend, hne, hended⟩ := readPhrase_append h (List.cons_ne_nil t ts) more
  rw [readRound_eq, readRound_eq, ← List.cons_append, happend]
  cases ho : readPhrase (t :: ts) with
  | failed fault rest =>
    rw [ho] at hne hended
    obtain ⟨u, us, rfl⟩ := List.exists_cons_of_ne_nil hne
    have hended : Ended (u :: us) := hended
    have hskip := skipStatement_append hended (List.cons_ne_nil u us) more
    simp only [Outcome.before, Outcome.rest, Outcome.round, hskip]
    exact ⟨rfl, hended.skipStatement⟩
  | done s rest =>
    rw [ho] at hne hended
    obtain ⟨u, us, rfl⟩ := List.exists_cons_of_ne_nil hne
    simp only [Outcome.before, Outcome.rest, List.cons_append, Outcome.round]
    have hended : Ended (u :: us) := hended
    have hus := hended.tail
    split
    · exact ⟨rfl, hus⟩
    · next hu =>
      -- what stands behind the statement is no terminator, so the last one is still to come
      have hne : us ≠ [] := by
        rintro rfl
        exact hu (hended u rfl)
      rw [skipStatement_append hus hne]
      exact ⟨rfl, hus.skipStatement⟩

/-! ## Whole texts -/

/-- One reading, and another one behind it. -/
instance : Append Reading := ⟨fun r q => ⟨r.statements ++ q.statements, r.errors ++ q.errors⟩⟩

@[simp] theorem Reading.statements_append (r q : Reading) :
    (r ++ q).statements = r.statements ++ q.statements := rfl

@[simp] theorem Reading.errors_append (r q : Reading) : (r ++ q).errors = r.errors ++ q.errors :=
  rfl

theorem Reading.append_assoc (r q p : Reading) : r ++ q ++ p = r ++ (q ++ p) := by
  show Reading.mk _ _ = Reading.mk _ _
  simp

theorem Reading.nil_append (r : Reading) : ⟨[], []⟩ ++ r = r := rfl

theorem Reading.append_nil (r : Reading) : r ++ ⟨[], []⟩ = r := by
  show Reading.mk _ _ = r
  simp

/-- What a round gives, as a reading. -/
def Round.reading (r : Round) : Reading := ⟨r.statement?.toList, r.error?.toList⟩

/-- What holds of no tokens, goes on over an empty line, and goes on over a round, holds of all
tokens. -/
theorem rounds_induction (inputEnd : Nat) {motive : List Token → Prop} (nil : motive [])
    (newline : ∀ t ts, t.kind = .newline → motive ts → motive (t :: ts))
    (round : ∀ t ts, t.kind ≠ .newline → motive (readRound inputEnd t ts).rest → motive (t :: ts))
    (ts : List Token) : motive ts := by
  induction hn : ts.length using Nat.strongRecOn generalizing ts with
  | _ n ih =>
    subst hn
    cases ts with
    | nil => exact nil
    | cons t ts =>
      by_cases ht : t.kind = .newline
      · exact newline t ts ht (ih ts.length (Nat.lt_succ_self _) ts rfl)
      · exact round t ts ht (ih _ (length_rest_readRound_lt inputEnd t ts) _ rfl)

section

variable (inputEnd : Nat)

/-- What was read so far only stands in front. -/
theorem readStatementsFrom_eq (statements : List Stmt) (errors : List ParseError)
    (ts : List Token) :
    readStatementsFrom inputEnd statements errors ts =
      ⟨statements.reverse, errors.reverse⟩ ++ readStatements inputEnd ts := by
  unfold readStatements
  induction ts using rounds_induction inputEnd generalizing statements errors with
  | nil =>
    rw [readStatementsFrom, readStatementsFrom]
    show _ = Reading.mk _ _
    simp
  | newline t ts ht ih =>
    rw [readStatementsFrom, readStatementsFrom, if_pos ht, if_pos ht, ih]
  | round t ts ht ih =>
    rw [readStatementsFrom, readStatementsFrom, if_neg ht, if_neg ht, ih, ih (_ ++ []) (_ ++ [])]
    rw [← Reading.append_assoc]
    congr 1
    show Reading.mk _ _ = Reading.mk _ _
    cases (readRound inputEnd t ts).statement? <;> cases (readRound inputEnd t ts).error? <;> simp

@[simp] theorem readStatements_nil : readStatements inputEnd [] = ⟨[], []⟩ := by
  simp [readStatements, readStatementsFrom]

theorem readStatements_newline {t : Token} (ht : t.kind = .newline) (ts : List Token) :
    readStatements inputEnd (t :: ts) = readStatements inputEnd ts := by
  rw [readStatements, readStatementsFrom, if_pos ht]
  rfl

theorem readStatements_round {t : Token} (ht : t.kind ≠ .newline) (ts : List Token) :
    readStatements inputEnd (t :: ts) =
      (readRound inputEnd t ts).reading ++
        readStatements inputEnd (readRound inputEnd t ts).rest := by
  rw [readStatements, readStatementsFrom, if_neg ht, readStatementsFrom_eq]
  congr 1
  cases hs : (readRound inputEnd t ts).statement? <;>
    cases he : (readRound inputEnd t ts).error? <;> simp [Round.reading, hs, he]

end

/-- **A text that ends with a terminator is read as if it stood alone.** -/
theorem readStatements_append {ts : List Token} (h : Ended ts) (inputEnd inputEnd' : Nat)
    (more : List Token) :
    readStatements inputEnd (ts ++ more) =
      readStatements inputEnd' ts ++ readStatements inputEnd more := by
  induction ts using rounds_induction inputEnd' with
  | nil => simp [Reading.nil_append]
  | newline t ts ht ih =>
    rw [List.cons_append, readStatements_newline _ ht, readStatements_newline _ ht]
    exact ih h.tail
  | round t ts ht ih =>
    obtain ⟨hround, hended⟩ := readRound_append h inputEnd inputEnd' more
    rw [List.cons_append, readStatements_round _ ht, readStatements_round _ ht, hround]
    rw [ih hended, Reading.append_assoc]
    rfl

/-! ## Where the errors are -/

theorem sublist_pos_append {xs : List Nat} {front back ts : List Token} {inputEnd : Nat}
    (h : xs.Sublist (back.map Token.pos ++ [inputEnd])) (hts : ts = front ++ back) :
    xs.Sublist (ts.map Token.pos ++ [inputEnd]) := by
  rw [hts, List.map_append, List.append_assoc]
  exact h.trans (List.sublist_append_right _ _)

/-- The error of a round is at one of its tokens that do not come again, or at the end of the input
if no tokens come again. -/
theorem RoundOf.sublist {inputEnd : Nat} {ts : List Token} {r : Round} (h : RoundOf inputEnd ts r)
    {later : List Nat} (hlater : later.Sublist (r.rest.map Token.pos ++ [inputEnd]))
    (hnil : r.rest = [] → later = []) :
    (r.error?.toList.map ParseError.pos ++ later).Sublist (ts.map Token.pos ++ [inputEnd]) := by
  cases h with
  | last hs =>
    rw [hnil rfl]
    exact List.nil_sublist _
  | @ended front us s u hs hu =>
    have hrest : later.Sublist ((u :: us).map Token.pos ++ [inputEnd]) := hlater.cons u.pos
    exact sublist_pos_append hrest rfl
  | @surplus front us s u hs hu hlook =>
    obtain ⟨skipped, hus⟩ := suffix_skipStatement us
    have hrest : (u.pos :: later).Sublist ((u :: us).map Token.pos ++ [inputEnd]) :=
      (sublist_pos_append hlater hus).cons_cons u.pos
    exact sublist_pos_append hrest rfl
  | @failed front rest fault hfault hmore hlook =>
    cases rest with
    | nil =>
      rw [hnil rfl]
      exact List.sublist_append_right _ _
    | cons u us =>
      have hskip : ∃ skipped, us = skipped ++ skipStatement (u :: us) := by
        rw [skipStatement]
        split
        · exact ⟨[], rfl⟩
        · exact suffix_skipStatement us
      obtain ⟨skipped, hus⟩ := hskip
      have hrest : (u.pos :: later).Sublist ((u :: us).map Token.pos ++ [inputEnd]) :=
        (sublist_pos_append hlater hus).cons_cons u.pos
      exact sublist_pos_append hrest rfl

/-- **The errors are at tokens, in their order and at most one at each, and the last of them may be
at the end of the input.** -/
theorem errors_sublist (inputEnd : Nat) (ts : List Token) :
    ((readStatements inputEnd ts).errors.map ParseError.pos).Sublist
      (ts.map Token.pos ++ [inputEnd]) := by
  induction ts using rounds_induction inputEnd with
  | nil =>
    rw [readStatements_nil]
    exact List.nil_sublist _
  | newline t ts ht ih =>
    rw [readStatements_newline _ ht]
    exact ih.cons t.pos
  | round t ts ht ih =>
    rw [readStatements_round _ ht, Reading.errors_append, List.map_append]
    refine (roundOf_readRound inputEnd t ts).sublist ih fun hnil => ?_
    rw [hnil, readStatements_nil]
    rfl

/-- In a text that ends with a terminator, all errors are at tokens. -/
theorem errors_sublist_of_ended {ts : List Token} (h : Ended ts) {inputEnd : Nat}
    (hts : ∀ t ∈ ts, t.pos < inputEnd) :
    ((readStatements inputEnd ts).errors.map ParseError.pos).Sublist (ts.map Token.pos) := by
  -- wherever the input ends, the errors are the same
  have hend : readStatements inputEnd ts = readStatements (inputEnd + 1) ts := by
    have happend := readStatements_append h inputEnd (inputEnd + 1) []
    rw [List.append_nil, readStatements_nil, Reading.append_nil] at happend
    exact happend
  have hsublist := errors_sublist inputEnd ts
  have hsublist' := errors_sublist (inputEnd + 1) ts
  rw [← hend] at hsublist'
  obtain ⟨xs, ys, hxs, hfront, hback⟩ := List.sublist_append_iff.1 hsublist'
  rcases List.sublist_singleton.1 hback with rfl | rfl
  · rw [hxs, List.append_nil]
    exact hfront
  · have hmem : inputEnd + 1 ∈ ts.map Token.pos ++ [inputEnd] :=
      hsublist.subset (by rw [hxs]; simp)
    rcases List.mem_append.1 hmem with hmem | hmem
    · obtain ⟨t, ht, hpos⟩ := List.mem_map.1 hmem
      have := hts t ht
      omega
    · have := List.mem_singleton.1 hmem
      omega

end ScriptCheck
