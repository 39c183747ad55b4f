import Mathlib.Data.List.DropRight
import Mathlib.Data.List.Induction
import ScriptCheck.Proofs.SourceFile

/-!
# Byte offsets and their lines and columns

A byte offset and its place say the same: the line counts the line feeds in front of the offset,
the column counts the bytes behind the last one of these. That holds of every offset, inside a
character as well, since the UTF-8 form of no other character has the byte of a line feed.

* `utf8Bytes`, `lineFeed_not_mem_utf8Bytes` — the bytes of a text, and where its line feeds are
* `Lines.map_start` — a line starts behind each line feed
* `SearchedTo`, `searchedTo_iff` — what a search in a row of increasing numbers comes to
* `SourceFile.Pinpoints` — what the table of a file says of a byte offset
* `offsets_pinpointed` — offsets and places belong to each other, one to one and in order
-/

namespace ScriptCheck

open Text

/-! ## Bytes -/

/-- The byte of a line feed. -/
def lineFeed : UInt8 := 10

/-- The bytes of a text in its UTF-8 form. -/
def utf8Bytes (cs : List Char) : List UInt8 := cs.flatMap String.utf8EncodeChar

theorem length_utf8Bytes (cs : List Char) : (utf8Bytes cs).length = byteSize cs := by
  induction cs with
  | nil => rfl
  | cons c cs ih =>
    rw [utf8Bytes, List.flatMap_cons, List.length_append, String.length_utf8EncodeChar]
    exact congrArg (c.utf8Size + ·) ih

theorem utf8Bytes_append_lineFeed (cs rest : List Char) :
    utf8Bytes (cs ++ '\n' :: rest) = utf8Bytes cs ++ lineFeed :: utf8Bytes rest := by
  rw [utf8Bytes, List.flatMap_append, List.flatMap_cons]
  rfl

/-- Only a line feed has the byte of one in its UTF-8 form. -/
theorem lineFeed_not_mem_utf8EncodeChar {c : Char} (h : c ≠ '\n') :
    lineFeed ∉ String.utf8EncodeChar c := by
  have hcode : c.val.toNat ≠ 10 := fun heq => h (Char.ext (UInt32.toNat_inj.1 heq))
  unfold lineFeed
  fun_cases String.utf8EncodeChar <;> simp [← UInt8.toNat_inj] <;> omega

theorem lineFeed_not_mem_utf8Bytes {cs : List Char} (h : '\n' ∉ cs) : lineFeed ∉ utf8Bytes cs := by
  intro hmem
  obtain ⟨c, hc, hmem⟩ := List.mem_flatMap.1 hmem
  exact lineFeed_not_mem_utf8EncodeChar (fun heq => h (heq ▸ hc)) hmem

/-! ## Indices in a row -/

section

variable {α : Type} [BEq α] {x : α}

/-- Of the indices of an element, as many are below a number as the element is in the row in front
of this number. -/
theorem countP_lt_idxsOf (xs : List α) (n : Nat) :
    (xs.idxsOf x).countP (· < n) = (xs.take n).count x := by
  conv_lhs => rw [← List.take_append_drop n xs]
  have hfront : ((xs.take n).idxsOf x).countP (· < n) = ((xs.take n).idxsOf x).length := by
    refine List.countP_eq_length.2 fun i hi => decide_eq_true ?_
    have := List.lt_add_of_mem_idxsOf i hi
    rw [List.length_take] at this
    omega
  have hback : ((xs.drop n).idxsOf x (0 + (xs.take n).length)).countP (· < n) = 0 := by
    refine List.countP_eq_zero.2 fun i hi => ?_
    have hlow := List.ge_of_mem_idxsOf i hi
    have hhigh := List.lt_add_of_mem_idxsOf i hi
    rw [List.length_take] at hlow hhigh
    rw [List.length_drop] at hhigh
    simp only [decide_eq_true_eq, Nat.not_lt]
    omega
  rw [List.idxsOf_append, List.countP_append, hfront, hback, Nat.add_zero, List.length_idxsOf]

end

/-! ## Searching -/

/-- What a search for a number in a row of increasing numbers comes to: its index, or, if it is not
there, the index at which it would have to be put in. -/
inductive SearchedTo (x : Nat) : List Nat → Nat → Prop
  | found {front back : List Nat} : SearchedTo x (front ++ x :: back) front.length
  | missing {front back : List Nat} (hfront : ∀ y ∈ front, y < x) (hback : ∀ y ∈ back, x < y) :
      SearchedTo x (front ++ back) front.length

section

variable {xs : List Nat} {x i : Nat}

theorem SearchedTo.eq_countP (h : SearchedTo x xs i) (hxs : xs.Pairwise (· < ·)) :
    i = xs.countP (· < x) := by
  have hcount {front back : List Nat} (hfront : ∀ y ∈ front, y < x) (hback : ∀ y ∈ back, x ≤ y) :
      front.length = (front ++ back).countP (· < x) := by
    have hnone : back.countP (· < x) = 0 :=
      List.countP_eq_zero.2 fun y hy => by simpa using hback y hy
    have hall : front.countP (· < x) = front.length :=
      List.countP_eq_length.2 fun y hy => decide_eq_true (hfront y hy)
    rw [List.countP_append, hall, hnone, Nat.add_zero]
  cases h with
  | found =>
    obtain ⟨-, hback, hfront⟩ := List.pairwise_append.1 hxs
    refine hcount (fun y hy => hfront y hy x List.mem_cons_self) fun y hy => ?_
    rcases List.mem_cons.1 hy with rfl | hy
    · exact Nat.le_refl _
    · exact Nat.le_of_lt ((List.pairwise_cons.1 hback).1 y hy)
  | missing hfront hback => exact hcount hfront fun y hy => Nat.le_of_lt (hback y hy)

/-- Every search comes to something. -/
theorem exists_searchedTo (hxs : xs.Pairwise (· < ·)) (x : Nat) : ∃ i, SearchedTo x xs i := by
  have hfront : ∀ y ∈ xs.takeWhile (· < x), y < x := fun y hy => by
    simpa using List.mem_takeWhile_imp hy
  have hsplit := List.takeWhile_append_dropWhile (p := (· < x)) (l := xs)
  have hhead : ∀ y ∈ (xs.dropWhile (· < x)).head?, ¬ y < x := fun y hy => by
    simpa using head?_dropWhile hy
  generalize xs.takeWhile (· < x) = front at hfront hsplit
  generalize xs.dropWhile (· < x) = back at hhead hsplit
  subst hsplit
  cases back with
  | nil => exact ⟨_, .missing hfront nofun⟩
  | cons y back =>
    have hle : x ≤ y := Nat.not_lt.1 (hhead y rfl)
    have hback := (List.pairwise_cons.1 (List.pairwise_append.1 hxs).2.1).1
    rcases Nat.eq_or_lt_of_le hle with rfl | hlt
    · exact ⟨_, .found⟩
    · refine ⟨_, .missing hfront fun z hz => ?_⟩
      rcases List.mem_cons.1 hz with rfl | hz
      · exact hlt
      · exact Nat.lt_trans hlt (hback z hz)

/-- **A search comes to the number of smaller numbers, and to nothing else.** -/
theorem searchedTo_iff (hxs : xs.Pairwise (· < ·)) : SearchedTo x xs i ↔ i = xs.countP (· < x) := by
  constructor
  · exact fun h => h.eq_countP hxs
  · rintro rfl
    obtain ⟨j, hj⟩ := exists_searchedTo hxs x
    rwa [← hj.eq_countP hxs]

end

/-! ## Where lines start -/

/-- **A text begins with a line, and behind each of its line feeds begins one.** -/
theorem Lines.map_start {start : Nat} {cs : List Char} {lines : List Line}
    (h : Lines start cs lines) :
    lines.map Line.start = start :: ((utf8Bytes cs).idxsOf lineFeed start).map (· + 1) := by
  have hnone {start : Nat} {cs : List Char} (hcs : '\n' ∉ cs) :
      (utf8Bytes cs).idxsOf lineFeed start = [] :=
    List.idxsOf_eq_nil_iff.2 fun b hb =>
      beq_eq_false_iff_ne.2 fun heq => lineFeed_not_mem_utf8Bytes hcs (heq ▸ hb)
  induction h with
  | last hcs => rw [hnone hcs, List.map_singleton, List.map_nil]
  | cons hcs _ ih =>
    rw [List.map_cons, ih, utf8Bytes_append_lineFeed, List.idxsOf_append, hnone hcs,
      List.nil_append, List.idxsOf_cons, if_pos (beq_self_eq_true _), length_utf8Bytes,
      List.map_cons]

/-- The line that goes on behind some bytes starts behind the last line feed among them. -/
theorem exists_start (bs more : List UInt8) :
    ∃ start, (0 :: ((bs ++ more).idxsOf lineFeed).map (· + 1))[bs.count lineFeed]? = some start ∧
      start + (bs.rtakeWhile (· ≠ lineFeed)).length = bs.length := by
  induction bs using List.reverseRecOn generalizing more with
  | nil => exact ⟨0, rfl, rfl⟩
  | append_singleton bs b ih =>
    by_cases hb : b = lineFeed
    · subst hb
      refine ⟨bs.length + 1, ?_, ?_⟩
      · rw [List.count_append, List.count_singleton_self, List.getElem?_cons_succ,
          List.append_assoc, List.idxsOf_append, ← List.length_idxsOf (s := 0),
          List.getElem?_map, List.getElem?_append_right (Nat.le_refl _)]
        simp
      · rw [List.rtakeWhile_concat_neg _ _ _ (by simp)]
        simp
    · obtain ⟨start, hstart, hlength⟩ := ih (b :: more)
      refine ⟨start, ?_, ?_⟩
      · rw [List.count_append, List.count_singleton, if_neg (by simpa using hb)]
        simpa using hstart
      · rw [List.rtakeWhile_concat_pos _ _ _ (by simpa using hb), List.length_append,
          ← Nat.add_assoc, hlength]
        simp

/-! ## Files -/

namespace SourceFile

variable {f : SourceFile} {b : Nat}

/-- The bytes of the text. -/
def bytes (f : SourceFile) : List UInt8 := f.text.toUTF8.data.toList

theorem bytes_eq (f : SourceFile) : f.bytes = utf8Bytes f.text.toList := by
  have hencoded : f.text.toUTF8 = f.text.toList.utf8Encode := String.utf8Encode_toList.symm
  rw [bytes, hencoded, utf8Bytes]
  simp [List.utf8Encode]

theorem length_bytes (f : SourceFile) : f.bytes.length = f.size := by
  rw [bytes_eq, length_utf8Bytes, byteSize_toList, size]

theorem map_start_lines (f : SourceFile) :
    f.lines.toList.map Line.start = 0 :: (f.bytes.idxsOf lineFeed).map (· + 1) := by
  rw [bytes_eq]
  exact f.lines_toList.map_start

/-- The table has all line feeds of the text. -/
theorem lineBreaks_eq (f : SourceFile) : f.lineBreaks = f.bytes.idxsOf lineFeed := by
  have hpred : (fun l : Line => l.start - 1) = (· - 1) ∘ Line.start := rfl
  rw [lineBreaks, hpred, ← List.map_map, List.map_drop, map_start_lines, List.drop_one,
    List.tail_cons, List.map_map]
  exact List.map_id _

theorem lineStart?_eq (f : SourceFile) (i : Nat) :
    f.lineStart? i = (0 :: (f.bytes.idxsOf lineFeed).map (· + 1))[i]? := by
  rw [← map_start_lines, List.getElem?_map, Array.getElem?_toList, lineStart?]

/-- The line of an offset counts the line feeds in front of it. -/
theorem lineIndex?_eq (h : b ≤ f.size) :
    f.lineIndex? b = some (f.lineBreaks.countP (· < b)) := by
  have hstarts : f.lines.countP (·.start ≤ b) = (f.lines.toList.map Line.start).countP (· ≤ b) := by
    rw [List.countP_map, Array.countP_toList]
    rfl
  have hbreaks : ((f.bytes.idxsOf lineFeed).map (· + 1)).countP (· ≤ b) =
      f.lineBreaks.countP (· < b) := by
    rw [List.countP_map, lineBreaks_eq]
    rfl
  rw [lineIndex?, if_neg (Nat.not_lt.2 h), hstarts, map_start_lines, List.countP_cons, hbreaks]
  simp

/-- What the table of a file says of a byte offset: its line and its column, by the bytes in front
of it, and that the line starts so many bytes before it as the column says. A search for the offset
among the line feeds, whether there is one at the offset or not, comes to the index of the line. -/
structure Pinpoints (f : SourceFile) (b line column start : Nat) : Prop where
  lineColumn : f.lineColumn? b = some (line, column)
  line_eq : line = 1 + (f.bytes.take b).count lineFeed
  column_eq : column = 1 + ((f.bytes.take b).rtakeWhile (· ≠ lineFeed)).length
  searched : ∀ i, SearchedTo b f.lineBreaks i ↔ i = line - 1
  lineStart : f.lineStart? (line - 1) = some start
  start_le : start ≤ b
  start_add : start + (column - 1) = b

theorem exists_pinpoints (h : b ≤ f.size) :
    ∃ line column start, f.Pinpoints b line column start := by
  have hcount : f.lineBreaks.countP (· < b) = (f.bytes.take b).count lineFeed := by
    rw [lineBreaks_eq, countP_lt_idxsOf]
  have hincreasing : f.lineBreaks.Pairwise (· < ·) := by
    rw [lineBreaks_eq]
    exact List.pairwise_idxsOf
  obtain ⟨start, hstart, hlength⟩ := exists_start (f.bytes.take b) (f.bytes.drop b)
  rw [List.take_append_drop, ← lineStart?_eq] at hstart
  rw [List.length_take, length_bytes, Nat.min_eq_left h] at hlength
  refine ⟨_, _, start, ?_, rfl, rfl, fun i => ?_, ?_, by omega, by omega⟩
  · have hcolumn : b - start = ((f.bytes.take b).rtakeWhile (· ≠ lineFeed)).length := by omega
    simp only [lineColumn?, lineIndex?_eq h, hcount, Option.bind_eq_bind, Option.bind_some, hstart,
      hcolumn, Option.pure_def, Nat.add_comm]
  · rw [searchedTo_iff hincreasing, hcount, Nat.add_sub_cancel_left]
  · rw [Nat.add_sub_cancel_left]
    exact hstart

theorem lineColumn?_eq_none_iff : f.lineColumn? b = none ↔ f.size < b := by
  constructor
  · intro hnone
    by_contra hle
    obtain ⟨line, column, start, h⟩ := exists_pinpoints (Nat.not_lt.1 hle)
    have hsome := h.lineColumn
    rw [hnone] at hsome
    contradiction
  · intro h
    rw [lineColumn?, lineIndex?, if_pos h]
    rfl

section

variable {b' line line' column column' start start' : Nat}

/-- A later offset is in a later column of the same line, or in a later line. -/
theorem Pinpoints.lex (h : f.Pinpoints b line column start)
    (h' : f.Pinpoints b' line' column' start') (hlt : b < b') :
    Prod.Lex (· < ·) (· < ·) (line, column) (line', column') := by
  have hfront : f.bytes.take b <+: f.bytes.take b' := List.take_prefix_take_left (Nat.le_of_lt hlt)
  have hle : line ≤ line' := by
    rw [h.line_eq, h'.line_eq]
    exact Nat.add_le_add_left (hfront.count_le lineFeed) 1
  rcases Nat.eq_or_lt_of_le hle with rfl | hlt'
  · have hstart := h.lineStart.symm.trans h'.lineStart
    have := Option.some.inj hstart
    have := h.column_eq
    have := h.start_add
    have := h'.start_add
    exact .right _ (by omega)
  · exact .left _ _ hlt'

/-- A place has only one offset. -/
theorem Pinpoints.eq (h : f.Pinpoints b line column start)
    (h' : f.Pinpoints b' line column start') : b = b' := by
  have hstart := Option.some.inj (h.lineStart.symm.trans h'.lineStart)
  rw [← h.start_add, ← h'.start_add, hstart]

end

end SourceFile

/-- **The table of a file has the offsets of all line feeds, in order. An offset behind the text has
no place, and every other one has: its line counts the line feeds in front of it, its column goes
back to the start of this line. The places of greater offsets are greater, line before column, and
no two offsets have one place.** -/
theorem offsets_pinpointed (f : SourceFile) :
    f.lineBreaks = f.bytes.idxsOf lineFeed ∧
    (∀ b, f.lineColumn? b = none ↔ f.size < b) ∧
    (∀ b ≤ f.size, ∃ line column start, f.Pinpoints b line column start) ∧
    (∀ b b', b < b' → b' ≤ f.size → ∃ place place', f.lineColumn? b = some place ∧
      f.lineColumn? b' = some place' ∧ Prod.Lex (· < ·) (· < ·) place place') ∧
    ∀ b b', b ≤ f.size → b' ≤ f.size → f.lineColumn? b = f.lineColumn? b' → b = b' := by
  refine ⟨f.lineBreaks_eq, fun b => SourceFile.lineColumn?_eq_none_iff,
    fun b hb => SourceFile.exists_pinpoints hb, fun b b' hlt hb' => ?_, fun b b' hb hb' heq => ?_⟩
  · obtain ⟨line, column, start, h⟩ := f.exists_pinpoints (Nat.le_trans (Nat.le_of_lt hlt) hb')
    obtain ⟨line', column', start', h'⟩ := f.exists_pinpoints hb'
    exact ⟨_, _, h.lineColumn, h'.lineColumn, h.lex h' hlt⟩
  · obtain ⟨line, column, start, h⟩ := f.exists_pinpoints hb
    obtain ⟨line', column', start', h'⟩ := f.exists_pinpoints hb'
    rw [h.lineColumn, h'.lineColumn, Option.some.injEq, Prod.mk.injEq] at heq
    obtain ⟨rfl, rfl⟩ := heq
    exact h.eq h'

-- the offset of a line feed is still on its line, and inside a character is a column of its own
example : (SourceFile.ofText "main" "é\n" none).lineColumn? 1 = some (1, 2) ∧
    (SourceFile.ofText "main" "é\n" none).lineColumn? 2 = some (1, 3) ∧
    (SourceFile.ofText "main" "é\n" none).lineColumn? 3 = some (2, 1) := by decide

end ScriptCheck
