import Mathlib.Logic.Function.Iterate
import ScriptCheck.Proofs.Token.Place
import ScriptCheck.Proofs.Token.Tokenization
import ScriptCheck.Proofs.Token.Walk

/-!
# Calls of a cursor in any order

A cursor is moved on and its errors are taken, in any order. Where it stands depends only on how
often it was moved on; when its errors are taken changes nothing in which errors there are.

* `Cursor.Session`, `Cursor.Session.run` — a cursor with what has been taken from it, and any calls
* `Cursor.station` — the tokens that a cursor comes to, one after the other
* `Cursor.Covers` — the stretch of the script that belongs to the current token
* `Cursor.Reached` — what every call keeps: `Reached.advance`, `Reached.takeErrors`, `reached_run`
* `Cursor.tracks_run` — what is known of a cursor after any calls
-/

namespace ScriptCheck

open Text

namespace Cursor

/-! ## Calls -/

/-- What can be asked of a cursor: to move on to the next token, and to give the errors that
wait. -/
inductive Call where
  | advance
  | takeErrors
  deriving DecidableEq, Repr

/-- A cursor, and the lists of errors that it has given so far. -/
structure Session where
  cursor : Cursor
  taken : List (List LexError)

namespace Session

/-- Before the first call. -/
def start (source : String) : Session := ⟨Cursor.start source, []⟩

/-- One call. -/
def step (s : Session) : Call → Session
  | .advance => { s with cursor := s.cursor.skip 1 }
  | .takeErrors => ⟨s.cursor.takeErrors.2, s.taken ++ [s.cursor.takeErrors.1]⟩

/-- Some calls, one after the other. -/
def run (s : Session) (calls : List Call) : Session := calls.foldl step s

theorem run_append (s : Session) (calls more : List Call) :
    s.run (calls ++ more) = (s.run calls).run more :=
  List.foldl_append

end Session

/-! ## The tokens that a cursor comes to -/

/-- The token that a cursor is on once it has been moved on so many times: the beginning, then the
tokens of the script, then the end for ever. -/
def station (source : String) (n : Nat) : Token :=
  ((⟨.beginning, 0, ""⟩ :: tokens source)[n]?).getD ⟨.ending, source.utf8ByteSize, ""⟩

section

variable {source : String} {n : Nat}

theorem station_succ (source : String) (n : Nat) :
    station source (n + 1) = ((tokens source)[n]?).getD ⟨.ending, source.utf8ByteSize, ""⟩ := rfl

theorem station_of_getElem? {l : PlacedLexeme} (h : (scan source)[n]? = some l) :
    station source (n + 1) = l.token := by
  rw [station_succ, tokens, List.getElem?_map, h]
  rfl

theorem station_of_length_lt (h : (scan source).length < n) :
    station source n = ⟨.ending, source.utf8ByteSize, ""⟩ := by
  have hnone : (⟨.beginning, 0, ""⟩ :: tokens source)[n]? = none := by
    rw [List.getElem?_eq_none_iff, List.length_cons, tokens, List.length_map]
    omega
  rw [station, hnone]
  rfl

/-- Only behind all tokens is the end. -/
theorem kind_station_eq_ending_iff :
    (station source n).kind = .ending ↔ (scan source).length < n := by
  constructor
  · intro hkind
    by_contra hle
    cases n with
    | zero => contradiction
    | succ n =>
      have hget := List.getElem?_eq_getElem (show n < (scan source).length by omega)
      rw [station_of_getElem? hget] at hkind
      exact Lexeme.kind_ne_ending _ hkind
  · intro h
    rw [station_of_length_lt h]

end

/-! ## The text of the current token -/

/-- The stretch of a text that the current token covers, and the text before it. -/
structure Covers (cs : List Char) (cur : Cursor) (before covered : List Char) : Prop where
  cs_eq : cs = before ++ covered ++ cur.rest
  start_eq : cur.current.pos = byteSize before
  pos_eq : cur.pos = byteSize before + byteSize covered
  text_eq : cur.current.kind ≠ .string → cur.current.text.toList = covered

theorem covers_start (source : String) : (start source).Covers source.toList [] [] :=
  ⟨rfl, rfl, rfl, fun _ => rfl⟩

theorem Covers.inputEnd {cs before covered : List Char} {cur : Cursor}
    (h : cur.Covers cs before covered) : cur.inputEnd = byteSize cs := by
  rw [Cursor.inputEnd, h.pos_eq, h.cs_eq, byteSize_append, byteSize_append]

/-- The next token covers a stretch behind the current one. -/
theorem Covers.exists_next {cs before covered : List Char} {cur : Cursor}
    (h : cur.Covers cs before covered) :
    ∃ raw, cur.next.Covers cs (before ++ covered) raw := by
  have hpos : cur.pos = byteSize (before ++ covered) := by rw [h.pos_eq, byteSize_append]
  cases hrest : cur.rest with
  | nil =>
    refine ⟨[], ?_⟩
    rw [next, hrest]
    exact ⟨by simp [h.cs_eq, hrest], hpos, hpos, fun _ => rfl⟩
  | cons c cs =>
    refine ⟨(Lexeme.split c cs).1.raw, ?_⟩
    rw [next, hrest]
    refine ⟨?_, hpos, by rw [hpos], fun hkind => toList_text_of_kind_ne hkind⟩
    rw [h.cs_eq, List.append_assoc _ (Lexeme.raw _), Lexeme.raw_split, hrest]

/-! ## What every call keeps -/

/-- What is known of a cursor that has been moved on so many times: the token that it is on, the
lexemes that are left, and that the errors of those in front are the ones that it has given and the
ones that wait. -/
structure Reached (source : String) (n : Nat) (given : List LexError) (cur : Cursor) : Prop where
  current : cur.current = station source n
  ahead : cur.ahead = (scan source).drop n
  errors : given ++ cur.pending = ((scan source).take n).flatMap PlacedLexeme.errors
  covers : ∃ before covered, cur.Covers source.toList before covered

namespace Reached

variable {source : String} {n : Nat} {given : List LexError} {cur : Cursor}

theorem start (source : String) : Reached source 0 [] (Cursor.start source) :=
  ⟨rfl, rfl, rfl, [], [], covers_start source⟩

theorem atEnd_iff (h : Reached source n given cur) :
    cur.atEnd = true ↔ (scan source).length < n := by
  rw [Cursor.atEnd_iff, h.current, kind_station_eq_ending_iff]

theorem inputEnd (h : Reached source n given cur) : cur.inputEnd = source.utf8ByteSize := by
  obtain ⟨before, covered, hcovers⟩ := h.covers
  rw [hcovers.inputEnd, byteSize_toList]

/-- **Moving on leads to the next token and adds its errors to those that wait. At the end it
changes nothing.** -/
theorem advance (h : Reached source n given cur) : Reached source (n + 1) given (cur.skip 1) := by
  cases hend : cur.atEnd with
  | true =>
    have hlt := h.atEnd_iff.1 hend
    rw [skip_of_atEnd hend]
    refine ⟨?_, ?_, ?_, h.covers⟩
    · rw [h.current, station_of_length_lt hlt, station_of_length_lt (Nat.lt_succ_of_lt hlt)]
    · rw [h.ahead, List.drop_eq_nil_of_le (Nat.le_of_lt hlt),
        List.drop_eq_nil_of_le (Nat.le_succ_of_le (Nat.le_of_lt hlt))]
    · rw [h.errors, List.take_of_length_le (Nat.le_of_lt hlt),
        List.take_of_length_le (Nat.le_succ_of_le (Nat.le_of_lt hlt))]
  | false =>
    have hnext : cur.skip 1 = cur.next := by
      rw [skip, if_neg (by simp [hend]), skip]
    obtain ⟨before, covered, hcovers⟩ := h.covers
    rw [hnext]
    cases hn : (scan source)[n]? with
    | none =>
      have hle := List.getElem?_eq_none_iff.1 hn
      have hnil : cur.ahead = [] := by rw [h.ahead, List.drop_eq_nil_of_le hle]
      refine ⟨?_, ?_, ?_, _, hcovers.exists_next⟩
      · rw [next_of_ahead_nil hnil, station_of_length_lt (Nat.lt_succ_of_le hle), h.inputEnd]
      · rw [next_of_ahead_nil hnil, List.drop_eq_nil_of_le (Nat.le_succ_of_le hle)]
        exact hnil
      · rw [next_of_ahead_nil hnil, List.take_of_length_le (Nat.le_succ_of_le hle),
          ← List.take_of_length_le hle]
        exact h.errors
    | some l =>
      obtain ⟨hlt, rfl⟩ := List.getElem?_eq_some_iff.1 hn
      have hcons := h.ahead
      rw [List.drop_eq_getElem_cons hlt] at hcons
      obtain ⟨hcurrent, hahead, hpending, -⟩ := next_of_ahead hcons
      refine ⟨?_, hahead, ?_, _, hcovers.exists_next⟩
      · rw [hcurrent, station_of_getElem? hn]
      · rw [hpending, ← List.append_assoc, h.errors, ← List.take_append_getElem hlt,
          List.flatMap_append, List.flatMap_singleton]

/-- Taking the errors moves them from those that wait to those that have been given. -/
theorem takeErrors (h : Reached source n given cur) :
    Reached source n (given ++ cur.takeErrors.1) cur.takeErrors.2 := by
  refine ⟨h.current, h.ahead, ?_, ?_⟩
  · rw [pending_takeErrors, List.append_nil]
    exact h.errors
  · obtain ⟨before, covered, hcovers⟩ := h.covers
    exact ⟨before, covered, hcovers.cs_eq, hcovers.start_eq, hcovers.pos_eq, hcovers.text_eq⟩

end Reached

section

variable {source : String} {n : Nat} {s : Session}

theorem reached_run_from (h : Reached source n s.taken.flatten s.cursor) (calls : List Call) :
    Reached source (n + calls.count .advance) (s.run calls).taken.flatten
      (s.run calls).cursor := by
  induction calls generalizing n s with
  | nil => exact h
  | cons call calls ih =>
    show Reached source _ ((s.step call).run calls).taken.flatten ((s.step call).run calls).cursor
    cases call with
    | advance =>
      have hrest := @ih (n + 1) (s.step .advance) h.advance
      rwa [List.count_cons_self, Nat.add_comm (List.count _ _) 1, ← Nat.add_assoc]
    | takeErrors =>
      refine @ih n (s.step .takeErrors) ?_
      have htaken : (s.step .takeErrors).taken.flatten =
          s.taken.flatten ++ s.cursor.takeErrors.1 := by
        simp [Session.step]
      rw [htaken]
      exact h.takeErrors

/-- **After any calls, a cursor is where it was moved to, and no error is lost.** -/
theorem reached_run (source : String) (calls : List Call) :
    Reached source (calls.count .advance) ((Session.start source).run calls).taken.flatten
      ((Session.start source).run calls).cursor := by
  have h := reached_run_from (s := Session.start source) (.start source) calls
  rwa [Nat.zero_add] at h

end

/-! ## What is known after any calls -/

namespace Reached

variable {source : String} {n : Nat} {given : List LexError} {cur : Cursor}

/-- The byte offsets of a cursor are not inside characters, and the current token is between
them. -/
theorem exists_slice (h : Reached source n given cur) :
    ∃ covered, charsBetween? source.toList cur.current.pos cur.pos = some covered ∧
      (cur.current.kind ≠ .string → cur.current.text.toList = covered) ∧
      takeBytes? source.toList cur.current.pos ≠ none ∧ takeBytes? source.toList cur.pos ≠ none ∧
      cur.current.pos ≤ cur.pos ∧ cur.pos ≤ source.utf8ByteSize := by
  obtain ⟨before, covered, hcovers⟩ := h.covers
  have hpos : cur.pos = byteSize (before ++ covered) := by rw [hcovers.pos_eq, byteSize_append]
  have hstart : takeBytes? source.toList cur.current.pos = some before := by
    rw [hcovers.cs_eq, hcovers.start_eq, List.append_assoc, takeBytes?_append]
  have hstop : takeBytes? source.toList cur.pos = some (before ++ covered) := by
    rw [hcovers.cs_eq, hpos, takeBytes?_append]
  have hsize := congrArg byteSize hcovers.cs_eq
  rw [byteSize_toList, byteSize_append, ← hpos] at hsize
  refine ⟨covered, ?_, hcovers.text_eq, by simp [hstart], by simp [hstop], ?_, by omega⟩
  · rw [hcovers.cs_eq, hcovers.start_eq, hcovers.pos_eq]
    exact charsBetween?_append before covered cur.rest
  · rw [hcovers.start_eq, hcovers.pos_eq]
    exact Nat.le_add_right _ _

theorem remaining (h : Reached source n given cur) : cur.remaining = (tokens source).drop n := by
  show cur.ahead.map PlacedLexeme.token = _
  rw [h.ahead, tokens, List.map_drop]

/-- A token is given as long as there is one. -/
theorem fst_pull (h : Reached source n given cur) : cur.pull.1 = (tokens source)[n]? := by
  have hnext := h.advance
  show (if (cur.skip 1).atEnd then none else some (cur.skip 1).current) = _
  rw [tokens, List.getElem?_map]
  cases hn : (scan source)[n]? with
  | none =>
    have hle := List.getElem?_eq_none_iff.1 hn
    rw [if_pos (hnext.atEnd_iff.2 (Nat.lt_succ_of_le hle))]
    rfl
  | some l =>
    have hlt := (List.getElem?_eq_some_iff.1 hn).1
    have hend : ¬ (cur.skip 1).atEnd = true := fun hend => by
      have := hnext.atEnd_iff.1 hend
      omega
    rw [if_neg hend, hnext.current, station_of_getElem? hn]
    rfl

/-- Giving tokens moves a cursor on. -/
theorem iterate_pull (h : Reached source n given cur) (k : Nat) :
    Reached source (n + k) given ((·.pull.2)^[k] cur) := by
  induction k with
  | zero => exact h
  | succ k ih =>
    rw [Function.iterate_succ_apply']
    exact ih.advance

end Reached

/-- What is known of a cursor that has been moved on so many times, among other calls. -/
structure Session.Tracks (source : String) (n : Nat) (s : Session) : Prop where
  /-- The current token is the one that so many moves lead to. -/
  current : s.cursor.current = station source n
  /-- What has been taken and what still waits are the errors of the tokens in front, each one
  once. -/
  errors : s.taken.flatten ++ s.cursor.pending = ((scan source).take n).flatMap PlacedLexeme.errors
  /-- The byte offsets are in the script, and in no character. -/
  start_le_pos : s.cursor.current.pos ≤ s.cursor.pos
  pos_le_size : s.cursor.pos ≤ source.utf8ByteSize
  start_boundary : takeBytes? source.toList s.cursor.current.pos ≠ none
  pos_boundary : takeBytes? source.toList s.cursor.pos ≠ none
  /-- So there is a text between them, and it is that of the current token if that is no string. -/
  slice : ∃ covered, charsBetween? source.toList s.cursor.current.pos s.cursor.pos = some covered ∧
    (s.cursor.current.kind ≠ .string → s.cursor.current.text = String.ofList covered)
  /-- Who is at the end stays there. -/
  ended : s.cursor.atEnd = true → ∀ more,
    (s.run more).cursor.current = ⟨.ending, source.utf8ByteSize, ""⟩
  /-- The tokens that are left are those behind the ones in front. -/
  remaining : s.cursor.remaining = (tokens source).drop n
  /-- They are given one by one, and behind them nothing any more. -/
  pulled : ∀ k, ((·.pull.2)^[k] s.cursor).pull.1 = ((tokens source).drop n)[k]?

/-- **After any calls of a cursor, the number of moves among them tells all but which errors have
been taken already.** -/
theorem tracks_run (source : String) (calls : List Call) :
    ((Session.start source).run calls).Tracks source (calls.count .advance) := by
  have h := reached_run source calls
  obtain ⟨covered, hslice, htext, hstart, hpos, hle, hsize⟩ := h.exists_slice
  refine ⟨h.current, h.errors, hle, hsize, hstart, hpos, ⟨covered, hslice, fun hkind => ?_⟩,
    fun hend more => ?_, h.remaining, fun k => ?_⟩
  · rw [← htext hkind, String.ofList_toList]
  · have hmore := reached_run source (calls ++ more)
    rw [Session.run_append] at hmore
    rw [hmore.current, station_of_length_lt]
    rw [List.count_append]
    exact Nat.lt_of_lt_of_le (h.atEnd_iff.1 hend) (Nat.le_add_right _ _)
  · rw [(h.iterate_pull k).fst_pull, List.getElem?_drop]

end Cursor

end ScriptCheck
