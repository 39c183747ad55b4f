import ScriptCheck.Proofs.SourceFile

/-!
# Lines and their slices

The lines of a text are its pieces between line feeds. Each of them stands in the text from the
start of the line up to the start of the next one, or to the end: what is cut out there, with the
line feed that ends it, is the slice of the line. The slices follow each other without a gap and
make up the text.

* `withoutLast` — taking one character from the end
* `Lines.map_chars` — the lines are the pieces between line feeds
* `lineSlices`, `Lines.flatten_lineSlices` — the slices make up the text
* `Lines.getD_start` — a line starts behind the slices of the lines before it
* `SourceFile.Stretch`, `SourceFile.exists_stretch` — where the table of a file has a slice
* `lines_split_text` — the lines of a file, their slices and what is shown of them
-/

namespace ScriptCheck

open Text

/-! ## A character at the end -/

/-- A text without a character at its end, if it ends with this one. Only one of them goes. -/
def withoutLast (c : Char) (cs : List Char) : List Char :=
  if cs.getLast? = some c then cs.dropLast else cs

@[simp] theorem withoutLast_concat (c : Char) (cs : List Char) : withoutLast c (cs ++ [c]) = cs := by
  rw [withoutLast, if_pos List.getLast?_concat, List.dropLast_concat]

theorem withoutLast_of_not_mem {c : Char} {cs : List Char} (h : c ∉ cs) : withoutLast c cs = cs :=
  if_neg fun hlast => h (List.mem_of_getLast? hlast)

theorem withoutLast_subset (c : Char) (cs : List Char) : withoutLast c cs ⊆ cs := by
  unfold withoutLast
  split
  · exact List.dropLast_subset cs
  · exact List.Subset.refl cs

/-! ## Slices -/

/-- The slices of lines: the characters of each line, with the line feed behind it. Behind the last
one there is none. -/
def lineSlices : List Line → List (List Char)
  | [] => []
  | [l] => [l.chars]
  | l :: next :: lines => (l.chars ++ ['\n']) :: lineSlices (next :: lines)

theorem lineSlices_cons (l : Line) {lines : List Line} (h : lines ≠ []) :
    lineSlices (l :: lines) = (l.chars ++ ['\n']) :: lineSlices lines := by
  obtain ⟨next, lines, rfl⟩ := List.exists_cons_of_ne_nil h
  rfl

section

variable {start : Nat} {cs : List Char} {lines : List Line}

theorem Lines.ne_nil (h : Lines start cs lines) : lines ≠ [] := by
  cases h <;> exact List.cons_ne_nil _ _

/-- **The lines of a text are its pieces between line feeds.** -/
theorem Lines.map_chars (h : Lines start cs lines) : lines.map Line.chars = cs.splitOn '\n' := by
  induction h with
  | last hcs => rw [List.splitOn_eq_singleton hcs, List.map_singleton]
  | cons hcs _ ih => rw [List.splitOn_append_cons_self_of_not_mem hcs, List.map_cons, ih]

/-- A line has no characters that the text has not. -/
theorem Lines.chars_subset (h : Lines start cs lines) : ∀ line ∈ lines, line.chars ⊆ cs := by
  induction h with
  | last _ => simp
  | cons _ _ ih =>
    refine List.forall_mem_cons.2 ⟨List.subset_append_left _ _, fun line hline c hc => ?_⟩
    exact List.mem_append_right _ (List.mem_cons_of_mem _ (ih line hline hc))

/-- **The slices of the lines make up the text.** -/
theorem Lines.flatten_lineSlices (h : Lines start cs lines) : (lineSlices lines).flatten = cs := by
  induction h with
  | last _ => exact List.flatten_singleton
  | cons _ hrest ih =>
    rw [lineSlices_cons _ hrest.ne_nil, List.flatten_cons, ih, List.append_assoc,
      List.singleton_append]

/-- Without its line feed, a slice has the characters of its line. -/
theorem Lines.map_withoutLast (h : Lines start cs lines) :
    (lineSlices lines).map (withoutLast '\n') = lines.map Line.chars := by
  induction h with
  | last hcs =>
    rw [lineSlices, List.map_singleton, withoutLast_of_not_mem hcs, List.map_singleton]
  | cons _ hrest ih =>
    rw [lineSlices_cons _ hrest.ne_nil, List.map_cons, withoutLast_concat, ih, List.map_cons]

theorem Lines.length_lineSlices (h : Lines start cs lines) :
    (lineSlices lines).length = lines.length := by
  have hlength := congrArg List.length h.map_withoutLast
  rwa [List.length_map, List.length_map] at hlength

/-- **A line starts behind the slices of the lines before it**, and behind all slices the text
ends. -/
theorem Lines.getD_start (h : Lines start cs lines) {i : Nat} (hi : i ≤ lines.length) :
    (lines[i]?.map Line.start).getD (start + byteSize cs) =
      start + byteSize ((lineSlices lines).take i).flatten := by
  induction h generalizing i with
  | last hcs =>
    rcases Nat.le_one_iff_eq_zero_or_eq_one.1 hi with rfl | rfl
    · simp
    · simp [lineSlices]
  | @cons start cs rest lines _ hrest ih =>
    cases i with
    | zero => simp
    | succ i =>
      have hslices : lineSlices (⟨start, cs⟩ :: lines) = (cs ++ ['\n']) :: lineSlices lines :=
        lineSlices_cons _ hrest.ne_nil
      have hslice : byteSize (cs ++ ['\n']) = byteSize cs + 1 := byteSize_append ..
      have hend : start + byteSize (cs ++ '\n' :: rest) =
          start + byteSize cs + 1 + byteSize rest := by
        rw [byteSize_append_lineFeed, ← Nat.add_assoc, ← Nat.add_assoc]
      rw [List.getElem?_cons_succ, hend, ih (Nat.le_of_succ_le_succ hi), hslices,
        List.take_succ_cons, List.flatten_cons, byteSize_append, hslice]
      omega

end

/-! ## Files -/

namespace SourceFile

variable {f : SourceFile} {i : Nat} {slice : List Char}

/-- Where the table of a file has a line: from the start of the line up to the start of the next
one, or to the end of the text if it is the last one. Both offsets are in the text and between
characters, in this order, and the slice is what stands between them. -/
structure Stretch (f : SourceFile) (i start stop : Nat) (slice : List Char) : Prop where
  lineStart : f.lineStart? i = some start
  lineStop : (f.lineStart? (i + 1)).getD f.size = stop
  start_le : start ≤ stop
  stop_le : stop ≤ f.size
  between : charsBetween? f.text.toList start stop = some slice

theorem length_lineSlices (f : SourceFile) : (lineSlices f.lines.toList).length = f.numLines := by
  rw [f.lines_toList.length_lineSlices, Array.length_toList, numLines]

theorem lineStart?_getD (hi : i ≤ f.numLines) :
    (f.lineStart? i).getD f.size = byteSize ((lineSlices f.lines.toList).take i).flatten := by
  have hstart := @Lines.getD_start _ _ _ f.lines_toList i hi
  rwa [Nat.zero_add, Nat.zero_add, byteSize_toList, Array.getElem?_toList] at hstart

theorem lineStart?_eq_none_iff : f.lineStart? i = none ↔ f.numLines ≤ i := by
  rw [lineStart?, Option.map_eq_none_iff, Array.getElem?_eq_none_iff, numLines]

/-- What is shown of a line is a piece of the text between line feeds, without a carriage return. -/
theorem lineText?_eq (f : SourceFile) (i : Nat) :
    f.lineText? i = ((f.text.toList.splitOn '\n')[i]?).map (withoutLast '\r') := by
  have hshown : Line.shown = withoutLast '\r' ∘ Line.chars := rfl
  rw [lineText?, hshown, ← f.lines_toList.map_chars, List.getElem?_map, Option.map_map,
    Array.getElem?_toList]

theorem lineText?_eq_none_iff : f.lineText? i = none ↔ f.numLines ≤ i := by
  rw [lineText?, Option.map_eq_none_iff, Array.getElem?_eq_none_iff, numLines]

/-- What is shown of a line is its slice without a line feed, and then without a carriage return. -/
theorem lineText?_of_slice (h : (lineSlices f.lines.toList)[i]? = some slice) :
    f.lineText? i = some (withoutLast '\r' (withoutLast '\n' slice)) := by
  rw [lineText?_eq, ← f.lines_toList.map_chars, ← f.lines_toList.map_withoutLast,
    List.getElem?_map, h]
  rfl

/-- **The table of a file has the slice of each line.** -/
theorem exists_stretch (h : (lineSlices f.lines.toList)[i]? = some slice) :
    ∃ start stop, f.Stretch i start stop slice := by
  obtain ⟨hi, hslice⟩ := List.getElem?_eq_some_iff.1 h
  have htake : (lineSlices f.lines.toList).take (i + 1) =
      (lineSlices f.lines.toList).take i ++ [slice] := by
    rw [List.take_add_one, h, Option.toList_some]
  have htext : f.text.toList = ((lineSlices f.lines.toList).take i).flatten ++ slice ++
      ((lineSlices f.lines.toList).drop (i + 1)).flatten := by
    rw [← List.flatten_concat, ← htake, ← List.flatten_append, List.take_append_drop,
      f.lines_toList.flatten_lineSlices]
  rw [length_lineSlices] at hi
  have hstart := @lineStart?_getD f i (Nat.le_of_lt hi)
  have hstop := @lineStart?_getD f (i + 1) hi
  rw [htake, List.flatten_concat, byteSize_append] at hstop
  have hsome : (f.lineStart? i).isSome = true := by
    rw [Option.isSome_iff_ne_none, ne_eq, lineStart?_eq_none_iff]
    omega
  obtain ⟨start, hsome⟩ := Option.isSome_iff_exists.1 hsome
  rw [hsome, Option.getD_some] at hstart
  subst hstart
  refine ⟨_, _, hsome, hstop, Nat.le_add_right _ _, ?_, ?_⟩
  · rw [← byteSize_append]
    exact byteSize_le_size htext
  · rw [htext]
    exact charsBetween?_append ..

end SourceFile

/-- **The lines of a file are the pieces of its text between line feeds, and a line is shown without
a carriage return at its end. For an index behind the last line there is neither a text nor a start.
Where the table has the other ones, it has slices that make up the text, and what is shown of a line
is its slice without a line feed and then without a carriage return.** -/
theorem lines_split_text (f : SourceFile) :
    (∀ i, (f.lineText? i = none ↔ f.numLines ≤ i) ∧ (f.lineStart? i = none ↔ f.numLines ≤ i) ∧
      f.lineText? i = ((f.text.toList.splitOn '\n')[i]?).map (withoutLast '\r')) ∧
    ∃ slices : List (List Char), slices.flatten = f.text.toList ∧ slices.length = f.numLines ∧
      ∀ i slice, slices[i]? = some slice →
        (∃ start stop, f.Stretch i start stop slice) ∧
        f.lineText? i = some (withoutLast '\r' (withoutLast '\n' slice)) := by
  refine ⟨fun i => ⟨f.lineText?_eq_none_iff, f.lineStart?_eq_none_iff, f.lineText?_eq i⟩,
    lineSlices f.lines.toList, f.lines_toList.flatten_lineSlices, f.length_lineSlices,
    fun i slice h => ⟨f.exists_stretch h, f.lineText?_of_slice h⟩⟩

-- of two carriage returns in front of a line feed, the first one is shown
example : (SourceFile.ofText "main" "a\r\r\nb\r" none).lineText? 0 = some ['a', '\r'] ∧
    (SourceFile.ofText "main" "a\r\r\nb\r" none).lineText? 1 = some ['b'] ∧
    (SourceFile.ofText "main" "a\r\r\nb\r" none).lineText? 2 = none := by decide

end ScriptCheck
