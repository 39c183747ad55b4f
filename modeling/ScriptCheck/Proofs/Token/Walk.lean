import ScriptCheck.Proofs.Token.Munch
import ScriptCheck.Token.Cursor

/-!
# Walking through a script

A cursor comes across the lexemes of a script one after the other, takes up the errors of each, and
stays at the end once no lexeme is left.

* `Cursor.ahead` — the lexemes that a cursor has not come to
* `Cursor.next_of_ahead`, `Cursor.next_of_ahead_nil` — one step
* `Cursor.skip_of_not_atEnd` — any number of steps
* `Cursor.skip_start` — any number of steps from the beginning of a script
* `Cursor.fresh_of_getElem?` — the errors that one step finds
-/

namespace ScriptCheck

open Text

namespace Cursor

/-- The lexemes behind the current token. -/
def ahead (cur : Cursor) : List PlacedLexeme := placeLexemes cur.pos (lexemes cur.rest)

/-- Where the input ends. -/
def inputEnd (cur : Cursor) : Nat := cur.pos + byteSize cur.rest

variable {cur : Cursor}

@[simp] theorem ahead_start (source : String) : (start source).ahead = scan source := rfl

@[simp] theorem inputEnd_start (source : String) :
    (start source).inputEnd = source.utf8ByteSize := by
  simp [inputEnd, start]

theorem pending_takeErrors (cur : Cursor) : cur.takeErrors.2.pending = [] := rfl

/-! ## One step -/

/-- **A step comes to the next lexeme and takes up its errors.** -/
theorem next_of_ahead {l : PlacedLexeme} {ls : List PlacedLexeme} (h : cur.ahead = l :: ls) :
    cur.next.current = l.token ∧ cur.next.ahead = ls ∧
      cur.next.pending = cur.pending ++ l.errors ∧ cur.next.inputEnd = cur.inputEnd := by
  cases hrest : cur.rest with
  | nil => simp [ahead, hrest] at h
  | cons c cs =>
    rw [ahead, hrest, lexemes_cons, placeLexemes_cons] at h
    obtain ⟨rfl, rfl⟩ := List.cons.inj h
    have hsize : byteSize (c :: cs) =
        byteSize (Lexeme.split c cs).1.raw + byteSize (Lexeme.split c cs).2 := by
      rw [← byteSize_append, Lexeme.raw_split]
    have hnext : cur.next =
        ⟨(⟨cur.pos, (Lexeme.split c cs).1⟩ : PlacedLexeme).token,
          cur.pos + byteSize (Lexeme.split c cs).1.raw, (Lexeme.split c cs).2,
          (⟨cur.pos, (Lexeme.split c cs).1⟩ : PlacedLexeme).errors.reverse ++
            cur.latestErrors⟩ := by
      rw [next, hrest]
    rw [hnext]
    refine ⟨rfl, rfl, ?_, ?_⟩
    · rw [pending, List.reverse_append, List.reverse_reverse]
      rfl
    · rw [inputEnd, inputEnd, hrest, hsize, ← Nat.add_assoc]

/-- Behind the last lexeme, a step comes to the end of the input. -/
theorem next_of_ahead_nil (h : cur.ahead = []) :
    cur.next = { cur with current := ⟨.ending, cur.inputEnd, ""⟩ } := by
  cases hrest : cur.rest with
  | nil => simp [next, inputEnd, hrest]
  | cons c cs => simp [ahead, hrest, lexemes_cons, placeLexemes_cons] at h

/-- A step comes to the end, or leaves less text. -/
theorem atEnd_next_or_length_rest_lt (cur : Cursor) :
    cur.next.atEnd = true ∨ cur.next.rest.length < cur.rest.length := by
  cases hrest : cur.rest with
  | nil =>
    left
    rw [next, hrest]
    rfl
  | cons c cs =>
    right
    rw [next, hrest]
    exact Lexeme.length_split_lt c cs

theorem atEnd_iff : cur.atEnd = true ↔ cur.current.kind = .ending := beq_iff_eq

theorem not_atEnd_of_current {l : PlacedLexeme} (h : cur.current = l.token) :
    cur.atEnd = false := by
  rw [atEnd, h, beq_eq_false_iff_ne]
  exact l.lexeme.kind_ne_ending

/-! ## Any number of steps -/

theorem skip_of_atEnd (h : cur.atEnd = true) (n : Nat) : cur.skip n = cur := by
  cases n with
  | zero => rfl
  | succ n => rw [skip, if_pos h]

/-- **Some steps come across so many lexemes, as long as there are any. One step more than there are
lexemes ends the walk.** -/
theorem skip_of_not_atEnd (h : cur.atEnd = false) (n : Nat) :
    (cur.skip n).ahead = cur.ahead.drop n ∧
      (cur.skip n).pending = cur.pending ++ (cur.ahead.take n).flatMap PlacedLexeme.errors ∧
      ((cur.skip n).atEnd = true ↔ cur.ahead.length < n) := by
  induction n generalizing cur with
  | zero => simp [skip, h]
  | succ n ih =>
    rw [skip, if_neg (by simp [h])]
    cases hahead : cur.ahead with
    | nil =>
      have hnext := next_of_ahead_nil hahead
      have hend : cur.next.atEnd = true := by
        rw [hnext]
        rfl
      rw [skip_of_atEnd hend]
      refine ⟨?_, ?_, by simp [hend]⟩
      · rw [hnext]
        exact hahead
      · rw [hnext]
        simp [pending]
    | cons l ls =>
      obtain ⟨hcurrent, hls, hpending, -⟩ := next_of_ahead hahead
      obtain ⟨hdrop, htake, hend⟩ := ih (not_atEnd_of_current hcurrent)
      rw [hls] at hdrop htake hend
      refine ⟨hdrop, ?_, ?_⟩
      · rw [htake, hpending, List.take_succ_cons, List.flatMap_cons, List.append_assoc]
      · rw [hend, List.length_cons, Nat.add_lt_add_iff_right]

/-- **From the beginning of a script, some steps come across so many of its lexemes.** -/
theorem skip_start (source : String) (n : Nat) :
    ((start source).skip n).ahead = (scan source).drop n ∧
      ((start source).skip n).pending = ((scan source).take n).flatMap PlacedLexeme.errors ∧
      (((start source).skip n).atEnd = true ↔ (scan source).length < n) :=
  @skip_of_not_atEnd (start source) rfl n

/-- At the end of a script, the errors of all its lexemes wait. -/
theorem pending_of_atEnd {source : String} {n : Nat}
    (h : ((start source).skip n).atEnd = true) :
    ((start source).skip n).pending = lexErrors source := by
  obtain ⟨-, hpending, hend⟩ := skip_start source n
  rw [hpending, List.take_of_length_le (Nat.le_of_lt (hend.1 h)), lexErrors]

theorem exists_atEnd (source : String) : ∃ n, ((start source).skip n).atEnd = true :=
  ⟨(scan source).length + 1, (skip_start source _).2.2.2 (Nat.lt_succ_self _)⟩

/-! ## The errors of one step -/

/-- A cursor that has come to a token with so many tokens in front of it, while no errors of these
wait. -/
def fresh (source : String) (n : Nat) : Cursor := ((start source).skip n).takeErrors.2.next

theorem ahead_takeErrors_skip_start (source : String) (n : Nat) :
    ((start source).skip n).takeErrors.2.ahead = (scan source).drop n :=
  (skip_start source n).1

/-- **The step that comes to a lexeme finds the errors of that lexeme.** -/
theorem fresh_of_getElem? {source : String} {n : Nat} {l : PlacedLexeme}
    (h : (scan source)[n]? = some l) :
    (fresh source n).current = l.token ∧ (fresh source n).pending = l.errors := by
  obtain ⟨hn, rfl⟩ := List.getElem?_eq_some_iff.1 h
  have hahead := ahead_takeErrors_skip_start source n
  rw [List.drop_eq_getElem_cons hn] at hahead
  obtain ⟨hcurrent, -, hpending, -⟩ := next_of_ahead hahead
  exact ⟨hcurrent, by rw [fresh, hpending, pending_takeErrors, List.nil_append]⟩

/-- At the end, a step finds nothing. -/
theorem pending_fresh_of_length_le {source : String} {n : Nat} (h : (scan source).length ≤ n) :
    (fresh source n).pending = [] := by
  have hahead := ahead_takeErrors_skip_start source n
  rw [List.drop_eq_nil_of_le h] at hahead
  rw [fresh, next_of_ahead_nil hahead]
  rfl

/-- What a step finds are errors of the lexeme that it comes to. -/
theorem exists_lexeme_of_mem_pending {source : String} {n : Nat} {e : LexError}
    (he : e ∈ (fresh source n).pending) :
    ∃ l ∈ scan source, (fresh source n).current = l.token ∧ e ∈ l.errors := by
  cases hn : (scan source)[n]? with
  | some l =>
    obtain ⟨hcurrent, hpending⟩ := fresh_of_getElem? hn
    exact ⟨l, List.mem_of_getElem? hn, hcurrent, hpending ▸ he⟩
  | none =>
    rw [pending_fresh_of_length_le (List.getElem?_eq_none_iff.1 hn)] at he
    contradiction

end Cursor

end ScriptCheck
