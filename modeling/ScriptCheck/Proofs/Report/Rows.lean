import ScriptCheck.Proofs.Report.Markers
import ScriptCheck.Proofs.SourceFile.Offsets
import ScriptCheck.Proofs.SourceFile.Slices

/-!
# The rows of a drawing

Behind its header and its place, a diagnostic is drawn row by row: for each of its places an empty
row, the lines of the source down to the line that is meant, and a row with the marker. Which lines
these are, and how far the marker is to the right, follows from the text alone.

* `SourceFile.excerpt` — the lines of a text that are shown for one of them
* `Row`, `Canvas.rowsAbove`, `Canvas.markerRow` — the rows of a snippet
* `Canvas.snippet_eq` — a snippet has these rows, or its marker is too far to the right
* `SourceFile.Marks` — what is known of the text before a marker
* `snippet_shows_lines` — what a snippet shows, and where its marker stands
* `Diagnostic.rows`, `Diagnostic.render_eq_ok_iff` — all the rows of a diagnostic
-/

namespace ScriptCheck

open Text

/-! ## Lines of the source -/

namespace SourceFile

/-- How many line feeds are before a byte offset. An offset behind the text is taken for its
end. -/
def feedsBefore (f : SourceFile) (pos : Nat) : Nat :=
  (f.bytes.take (f.clamp pos)).count lineFeed

/-- The lines of the text down to the one with an index, from some lines above it on: their numbers,
and their characters without the ends of the lines, tabulators expanded. -/
def excerpt (f : SourceFile) (above index : Nat) : List (Nat × String) :=
  ((((f.text.toList.splitOn '\n').zipIdx 1).take (index + 1)).drop (index - above)).map
    fun (cs, number) => (number, String.ofList (expandTabs (withoutLast '\r' cs)))

/-- The characters from a byte offset up to another one that is not before it, if no character lies
across one of them. -/
def slice? (f : SourceFile) (start stop : Nat) : Option (List Char) :=
  if start ≤ stop then charsBetween? f.text.toList start stop else none

variable {f : SourceFile} {p index start : Nat}

theorem clamp_le (f : SourceFile) (p : Nat) : f.clamp p ≤ f.size := Nat.min_le_right _ _

/-- The line of an offset has the line feeds before the offset above it. -/
theorem lineIndex?_clamp (f : SourceFile) (p : Nat) :
    f.lineIndex? (f.clamp p) = some (f.feedsBefore p) := by
  rw [lineIndex?_eq (f.clamp_le p), lineBreaks_eq, countP_lt_idxsOf, feedsBefore]

theorem exists_lineStart (f : SourceFile) (p : Nat) :
    ∃ start, f.lineStart? (f.feedsBefore p) = some start ∧ start ≤ f.clamp p := by
  obtain ⟨line, column, start, h⟩ := f.exists_pinpoints (f.clamp_le p)
  have hindex : line - 1 = f.feedsBefore p := by
    rw [h.line_eq, Nat.add_sub_cancel_left, feedsBefore]
  exact ⟨start, hindex ▸ h.lineStart, h.start_le⟩

theorem feedsBefore_lt (f : SourceFile) (p : Nat) : f.feedsBefore p < f.numLines := by
  obtain ⟨start, hstart, -⟩ := f.exists_lineStart p
  by_contra hle
  rw [lineStart?_eq_none_iff.2 (Nat.not_lt.1 hle)] at hstart
  contradiction

/-- The line at which an offset is reported counts from one. -/
theorem fst_place (f : SourceFile) (pos : Nat) : (f.place pos).1 = f.feedsBefore pos + 1 := by
  obtain ⟨start, hstart, -⟩ := f.exists_lineStart pos
  rw [place, lineColumn?, lineIndex?_clamp]
  simp [hstart]

theorem length_splitOn (f : SourceFile) : (f.text.toList.splitOn '\n').length = f.numLines := by
  rw [← f.lines_toList.map_chars, List.length_map, Array.length_toList, numLines]

/-- The last line of an excerpt is the one that is meant. -/
theorem getLast?_excerpt {shown : List Char} (above : Nat) (h : f.lineText? index = some shown) :
    (f.excerpt above index).getLast? = some (index + 1, String.ofList (expandTabs shown)) := by
  rw [lineText?_eq, Option.map_eq_some_iff] at h
  obtain ⟨cs, hcs, rfl⟩ := h
  have hindex : index < (f.text.toList.splitOn '\n').length := (List.getElem?_eq_some_iff.1 hcs).1
  have hlast : ((((f.text.toList.splitOn '\n').zipIdx 1).take (index + 1)).drop
      (index - above)).getLast? = some (cs, index + 1) := by
    rw [List.getLast?_drop, List.getLast?_take, if_neg (by simp; omega), if_neg (by omega)]
    simp [List.getElem?_zipIdx, hcs, Nat.add_comm 1]
  rw [excerpt, List.getLast?_map, hlast]
  rfl

/-- The lines of an excerpt are lines of the text down to the one that is meant. -/
theorem exists_of_mem_excerpt {above number : Nat} {text : String}
    (h : (number, text) ∈ f.excerpt above index) :
    ∃ i cs, i ≤ index ∧ number = i + 1 ∧ (f.text.toList.splitOn '\n')[i]? = some cs ∧
      text = String.ofList (expandTabs (withoutLast '\r' cs)) := by
  obtain ⟨⟨cs, n⟩, hmem, heq⟩ := List.mem_map.1 h
  obtain ⟨rfl, rfl⟩ := Prod.mk.inj heq
  obtain ⟨i, hi, hget⟩ := List.mem_take_iff_getElem.1 (List.mem_of_mem_drop hmem)
  rw [List.getElem_zipIdx, Prod.mk.injEq] at hget
  obtain ⟨rfl, rfl⟩ := hget
  exact ⟨i, _, by omega, Nat.add_comm 1 i, List.getElem?_eq_getElem _, rfl⟩

end SourceFile

/-! ## Rows -/

/-- A row of a snippet: what is in the column of numbers, and what is drawn behind the gutter. -/
structure Row where
  number : Option Nat
  body : List Span

/-- A row of which only the gutter is drawn. -/
def Row.bare : Row := ⟨none, []⟩

/-- What is written of the number of a row. -/
def Row.digits (r : Row) : String := (r.number.map toString).getD ""

/-- What a row is drawn with. -/
def Row.spans (c : Canvas) (r : Row) : List Span := c.gutter r.digits :: r.body

namespace Canvas

/-- The rows of a snippet above the one with the marker: an empty one, and the lines. -/
def rowsAbove (c : Canvas) (pos : Nat) : List Row :=
  ⟨none, [plain "\n"]⟩ ::
    (c.source.excerpt c.config.contextSize (c.source.feedsBefore pos)).map
      fun (number, text) => ⟨some number, [plain (text ++ "\n")]⟩

/-- The row of a snippet with the marker, behind so many blanks as there are columns before it. -/
def markerRow (c : Canvas) (pos : Nat) (marker : Marker) : Row :=
  ⟨none, [⟨some marker.style,
    blanks (c.source.columnsBefore pos) ++ marker.sign ++ marker.text⟩, plain "\n"]⟩

/-- All the rows of a snippet. -/
def rows (c : Canvas) (pos : Nat) (marker : Marker) : List Row :=
  c.rowsAbove pos ++ [c.markerRow pos marker]

variable {c : Canvas} {pos : Nat}

/-- A row of a snippet is the empty one, or one with a line, or the one with the marker. -/
theorem mem_rows {r : Row} {marker : Marker} :
    r ∈ c.rows pos marker ↔ r = ⟨none, [plain "\n"]⟩ ∨
      (∃ number text,
        (number, text) ∈ c.source.excerpt c.config.contextSize (c.source.feedsBefore pos) ∧
          r = ⟨some number, [plain (text ++ "\n")]⟩) ∨
      r = c.markerRow pos marker := by
  simp only [rows, rowsAbove, List.mem_append, List.mem_cons, List.mem_map, Prod.exists,
    List.not_mem_nil, or_false, or_assoc, eq_comm (a := r)]

/-- The lines that are drawn for a line are those of the excerpt. -/
theorem map_context {index : Nat} (h : index < c.source.numLines) :
    (c.context index).map (fun i => (i + 1, String.ofList (c.source.shownLine i))) =
      c.source.excerpt c.config.contextSize index := by
  have hlength := c.source.length_splitOn
  unfold Canvas.context SourceFile.excerpt
  refine List.ext_getElem ?_ fun i hi hi' => ?_
  · simp only [List.length_map, List.length_range', List.length_drop, List.length_take,
      List.length_zipIdx, hlength]
    omega
  · rw [List.length_map, List.length_range'] at hi
    have hline : index - c.config.contextSize + i < (c.source.text.toList.splitOn '\n').length := by
      omega
    simp only [List.getElem_map, List.getElem_range', List.getElem_drop, List.getElem_take,
      List.getElem_zipIdx, SourceFile.shownLine, SourceFile.lineText?_eq, Nat.one_mul,
      List.getElem?_eq_getElem hline, Option.map_some, Option.getD_some, Nat.add_comm 1]

/-- The rows above a marker are drawn as an empty one and the lines of the context. -/
theorem flatMap_rowsAbove (c : Canvas) (pos : Nat) :
    (c.rowsAbove pos).flatMap (Row.spans c) =
      [c.gutter "", plain "\n"] ++ (c.context (c.source.feedsBefore pos)).flatMap c.line := by
  rw [rowsAbove, ← map_context (c.source.feedsBefore_lt pos), List.map_map, List.flatMap_cons,
    List.flatMap_map]
  rfl

/-- **A snippet has its rows if there is room for the marker, and fails if there is none.** -/
theorem snippet_eq (c : Canvas) (pos : Nat) (marker : Marker) :
    c.snippet pos marker =
      if c.source.columnsBefore pos ≤ markerLimit
      then .ok ((c.rows pos marker).flatMap (Row.spans c))
      else .error (.markerTooFar (c.source.columnsBefore pos)) := by
  split
  · next hfits =>
    unfold SourceFile.columnsBefore at hfits
    rw [snippet, SourceFile.shownBefore_eq (c.source.clamp_le pos), if_neg (Nat.not_lt.2 hfits),
      SourceFile.lineIndex?_clamp, rows, List.flatMap_append, flatMap_rowsAbove]
    rfl
  · next hfits => exact snippet_eq_error marker (Nat.lt_of_not_le hfits)

end Canvas

/-! ## Diagnostics -/

namespace Diagnostic

/-- The byte offsets at which a diagnostic has markers, and the markers: its own, and those of its
labels. -/
def marks (d : Diagnostic) (config : Config) : List (Nat × Marker) :=
  (d.pos, ⟨config.errorStyle, config.underline, ""⟩) ::
    d.labels.map fun l => (l.pos, ⟨config.labelStyle, config.labelUnderline, " " ++ l.message⟩)

/-- All the rows of a diagnostic. -/
def rows (d : Diagnostic) (f : SourceFile) (config : Config) : List Row :=
  (d.marks config).flatMap fun (pos, marker) => (d.canvas f config).rows pos marker

variable {d : Diagnostic} {f : SourceFile}

@[simp] theorem map_fst_marks (d : Diagnostic) (config : Config) :
    (d.marks config).map Prod.fst = d.places := by
  simp [marks, places, Function.comp_def]

/-- A row of a diagnostic is a row of one of its snippets. -/
theorem mem_rows {r : Row} {config : Config} :
    r ∈ d.rows f config ↔
      ∃ pos marker, (pos, marker) ∈ d.marks config ∧
        r ∈ (d.canvas f config).rows pos marker := by
  simp only [rows, List.mem_flatMap, Prod.exists]

/-- A marker stands at a place. -/
theorem mem_places_of_mem_marks {pos : Nat} {marker : Marker} {config : Config}
    (h : (pos, marker) ∈ d.marks config) : pos ∈ d.places := by
  rw [← map_fst_marks d config]
  exact List.mem_map_of_mem h

/-- A row with a number is a line of the excerpt for one of the places. -/
theorem exists_of_mem_rows {r : Row} {config : Config} {n : Nat} (hr : r ∈ d.rows f config)
    (hn : n ∈ r.number) :
    ∃ p ∈ d.places, ∃ text, (n, text) ∈ f.excerpt config.contextSize (f.feedsBefore p) ∧
      r.body = [Canvas.plain (text ++ "\n")] := by
  obtain ⟨pos, marker, hmark, hmem⟩ := mem_rows.1 hr
  rcases Canvas.mem_rows.1 hmem with rfl | ⟨number, text, htext, rfl⟩ | rfl
  · contradiction
  · obtain rfl : number = n := Option.some.inj hn
    exact ⟨pos, mem_places_of_mem_marks hmark, text, htext, rfl⟩
  · contradiction

/-- The greatest line number is the one of some place. -/
theorem exists_lastLine (d : Diagnostic) (f : SourceFile) :
    ∃ p ∈ d.places, d.lastLine f = f.feedsBefore p + 1 := by
  rcases List.mem_cons.1 (foldl_max_mem (d.labels.map fun l => (f.place l.pos).1) _) with h | h
  · exact ⟨d.pos, List.mem_cons_self, h.trans (f.fst_place d.pos)⟩
  · obtain ⟨l, hl, hlast⟩ := List.mem_map.1 h
    rw [f.fst_place] at hlast
    exact ⟨l.pos, List.mem_cons_of_mem _ (List.mem_map_of_mem hl), hlast.symm⟩

theorem lastLine_pos (d : Diagnostic) (f : SourceFile) : 0 < d.lastLine f := by
  obtain ⟨p, -, hp⟩ := d.exists_lastLine f
  omega

/-- The line numbers of no place are greater than the greatest one. -/
theorem lastLine_le_iff {n : Nat} :
    d.lastLine f ≤ n ↔ ∀ p ∈ d.places, f.feedsBefore p + 1 ≤ n := by
  simp [lastLine, foldl_max_le_iff, places, f.fst_place]

/-- The markers of a diagnostic fit if those at its places do. -/
theorem markersFit_iff (config : Config) :
    d.MarkersFit f ↔ ∀ mark ∈ d.marks config, f.columnsBefore mark.1 ≤ markerLimit := by
  rw [MarkersFit, ← map_fst_marks d config, List.forall_mem_map]

/-- The snippets of a diagnostic are drawn one after the other. -/
theorem render_eq_marks (d : Diagnostic) (f : SourceFile) (config : Config) :
    d.render f config = do
      let snippets ← (d.marks config).mapM fun (pos, marker) =>
        (d.canvas f config).snippet pos marker
      return d.header config ++ [d.location (d.canvas f config)] ++ snippets.flatten ++
        [Canvas.plain "\n"] := by
  have hsecondary : d.secondary f config = fun l => (d.canvas f config).snippet l.pos
      ⟨config.labelStyle, config.labelUnderline, " " ++ l.message⟩ := rfl
  rw [render_eq, primary, hsecondary, marks, List.mapM_cons, List.mapM_map]
  simp [Function.comp_def]

/-- **A diagnostic whose markers fit is drawn with all its rows.** -/
theorem render_eq_ok (h : d.MarkersFit f) (config : Config) :
    d.render f config = .ok (d.header config ++ [d.location (d.canvas f config)] ++
      (d.rows f config).flatMap (Row.spans (d.canvas f config)) ++ [Canvas.plain "\n"]) := by
  have hsnippets : (d.marks config).mapM (fun (pos, marker) =>
      (d.canvas f config).snippet pos marker) = .ok ((d.marks config).map fun (pos, marker) =>
        ((d.canvas f config).rows pos marker).flatMap (Row.spans (d.canvas f config))) := by
    refine mapM_eq_pure_map fun mark hmark => ?_
    have hfits := (markersFit_iff config).1 h mark hmark
    exact (Canvas.snippet_eq _ _ _).trans (if_pos hfits)
  rw [render_eq_marks, hsnippets, rows, List.flatMap_assoc, List.flatMap_def]
  rfl

/-- **If anything is drawn of a diagnostic, its markers fit, and it is drawn with all its rows.** -/
theorem render_eq_ok_iff {config : Config} {spans : List Span} :
    d.render f config = .ok spans ↔ d.MarkersFit f ∧
      spans = d.header config ++ [d.location (d.canvas f config)] ++
        (d.rows f config).flatMap (Row.spans (d.canvas f config)) ++ [Canvas.plain "\n"] := by
  by_cases hfits : d.MarkersFit f
  · rw [render_eq_ok hfits config, Except.ok.injEq, eq_comm]
    exact (and_iff_right hfits).symm
  · obtain ⟨p, hp, hlimit, hfails⟩ := exists_render_eq_error hfits
    rw [hfails config]
    simp [hfits]

end Diagnostic

/-! ## What stands before a marker -/

/-- What is known of a byte offset `q` in a text for which a marker is drawn: the line that the
offset is on, by its index, its start and what is shown of it, and the text of the line `before` the
offset. There is no such text if the offset lies inside a character. If it does not, and is not
behind what is shown of the line, what is shown begins with the text before the offset, and goes on
with what stands at the offset. -/
structure SourceFile.Marks (f : SourceFile) (q index start : Nat) (shown before : List Char) :
    Prop where
  index_eq : index = (f.bytes.take q).count lineFeed
  lineStart : f.lineStart? index = some start
  lineText : f.lineText? index = some shown
  start_le : start ≤ q
  before_eq : before = (f.slice? start q).getD []
  inside : takeBytes? f.text.toList q = none → f.slice? start q = none
  outside : ∀ upTo, takeBytes? f.text.toList q = some upTo → f.slice? start q = some before
  shown_eq : ∀ upTo, takeBytes? f.text.toList q = some upTo → q ≤ start + byteSize shown →
    ∃ rest, rest <+: f.text.toList.drop upTo.length ∧
      expandTabs shown = expandTabs before ++ expandTabs rest

namespace SourceFile

variable {f : SourceFile} {q : Nat}

/-- No text ends inside a character. -/
theorem slice?_eq_none {start : Nat} (h : takeBytes? f.text.toList q = none) :
    f.slice? start q = none := by
  unfold slice? charsBetween?
  rw [h]
  cases takeBytes? f.text.toList start <;> simp

/-- What is not behind the shown part of a line is in front of a carriage return that is not
shown. -/
theorem exists_shown_eq {start : Nat} {tail rest : List Char}
    (h : byteSize tail ≤ byteSize (Line.shown ⟨start, tail ++ rest⟩)) :
    ∃ front, front <+: rest ∧ Line.shown ⟨start, tail ++ rest⟩ = tail ++ front := by
  unfold Line.shown at h ⊢
  split
  · next hlast =>
    rw [if_pos hlast] at h
    by_cases hrest : rest = []
    · -- the carriage return that is not shown would be before the offset
      subst hrest
      obtain ⟨front, hfront⟩ := List.getLast?_eq_some_iff.1 hlast
      have htail : tail = front ++ ['\r'] := by simpa using hfront
      have hreturn : ('\r' : Char).utf8Size = 1 := rfl
      simp only [htail, List.append_nil, List.dropLast_concat, byteSize_append, byteSize_cons,
        byteSize_nil, hreturn] at h
      omega
    · exact ⟨rest.dropLast, List.dropLast_prefix rest, List.dropLast_append_of_ne_nil hrest⟩
  · exact ⟨rest, List.prefix_rfl, rfl⟩

theorem expandTabs_append (cs ds : List Char) :
    expandTabs (cs ++ ds) = expandTabs cs ++ expandTabs ds := List.flatMap_append

/-- What is measured for a marker at a character is the text of the line before it. -/
theorem exists_marks_of_cut {p : Nat} {upTo after : List Char}
    (htext : f.text.toList = upTo ++ after) (hp : f.clamp p = byteSize upTo) :
    ∃ start shown before, f.Marks (f.clamp p) (f.feedsBefore p) start shown before ∧
      f.columnsBefore p = columnWidth (expandTabs before) := by
  obtain ⟨head, tail, hupTo, htail, hline, hindex⟩ := exists_line_of_cut htext
  rw [← hp, lineIndex?_clamp] at hindex
  rw [← Option.some.inj hindex] at hline
  have htake : takeBytes? f.text.toList (f.clamp p) = some upTo := by
    rw [htext, hp, takeBytes?_append]
  have hbytes : byteSize upTo = byteSize head + byteSize tail := by
    rw [hupTo, byteSize_append]
  have hslice : f.slice? (byteSize head) (f.clamp p) = some tail := by
    rw [slice?, if_pos (by omega), htext, hp, hbytes, hupTo]
    exact charsBetween?_append head tail after
  refine ⟨_, _, tail, ⟨rfl, lineStart?_of_getElem? hline, lineText?_of_getElem? hline, ?_, ?_, ?_,
    fun _ _ => hslice, ?_⟩, ?_⟩
  · show byteSize head ≤ _
    omega
  · rw [hslice]
    rfl
  · simp [htake]
  · intro upTo' hupTo' hle
    obtain rfl : upTo = upTo' := Option.some.inj (htake.symm.trans hupTo')
    have hle' : byteSize tail ≤ byteSize (Line.shown ⟨byteSize head, tail ++ restOfLine after⟩) := by
      have : f.clamp p ≤ byteSize head + _ := hle
      omega
    obtain ⟨front, hfront, hshown⟩ := exists_shown_eq hle'
    refine ⟨front, ?_, by rw [hshown, expandTabs_append]⟩
    rw [htext, List.drop_left]
    exact hfront.trans (List.takeWhile_prefix _)
  · rw [columnsBefore, htake, htail]
    rfl

/-- Nothing is measured for a marker inside a character. -/
theorem exists_marks_inside {p : Nat} (htake : takeBytes? f.text.toList (f.clamp p) = none) :
    ∃ start shown before, f.Marks (f.clamp p) (f.feedsBefore p) start shown before ∧
      f.columnsBefore p = columnWidth (expandTabs before) := by
  obtain ⟨start, hlineStart, hle⟩ := f.exists_lineStart p
  obtain ⟨shown, hshown⟩ : ∃ shown, f.lineText? (f.feedsBefore p) = some shown := by
    rw [← Option.ne_none_iff_exists', ne_eq, lineText?_eq_none_iff]
    exact Nat.not_le.2 (f.feedsBefore_lt p)
  have hslice : f.slice? start (f.clamp p) = none := slice?_eq_none htake
  refine ⟨start, shown, [], ⟨rfl, hlineStart, hshown, hle, ?_, fun _ => hslice, ?_, ?_⟩, ?_⟩
  · rw [hslice]
    rfl
  · simp [htake]
  · simp [htake]
  · rw [columnsBefore, htake]
    rfl

/-- **What is measured for a marker is the text of the line before it.** -/
theorem exists_marks (f : SourceFile) (p : Nat) :
    ∃ start shown before, f.Marks (f.clamp p) (f.feedsBefore p) start shown before ∧
      f.columnsBefore p = columnWidth (expandTabs before) := by
  have hsize : f.clamp p ≤ byteSize f.text.toList := by
    rw [byteSize_toList]
    exact f.clamp_le p
  rcases exists_cut hsize with ⟨upTo, after, htext, hp⟩ | ⟨upTo, c, after, htext, hstart, hend⟩
  · exact exists_marks_of_cut htext hp
  · exact exists_marks_inside (htext ▸ takeBytes?_inside hstart hend)

end SourceFile

/-- **A snippet shows an empty row, then the lines of the text down to the one that the byte offset
is on, from the wanted number of lines above it on, with their numbers, and then a row with the
marker, behind as many blanks as the text of the line before the offset has columns. What is shown
of the last one of these lines begins with that text, and at the marker it goes on with what stands
at the offset. Only where these are more columns than there is room for, nothing is drawn.** -/
theorem snippet_shows_lines (c : Canvas) (pos : Nat) (marker : Marker) :
    ∃ index start shown before,
      c.source.Marks (min pos c.source.size) index start shown before ∧
      (c.source.excerpt c.config.contextSize index).getLast? =
        some (index + 1, String.ofList (expandTabs shown)) ∧
      c.snippet pos marker =
        let columns := columnWidth (expandTabs before)
        let above : List Row := ⟨none, [Canvas.plain "\n"]⟩ ::
          (c.source.excerpt c.config.contextSize index).map
            fun (number, text) => ⟨some number, [Canvas.plain (text ++ "\n")]⟩
        let markerRow : Row := ⟨none,
          [⟨some marker.style, blanks columns ++ marker.sign ++ marker.text⟩, Canvas.plain "\n"]⟩
        if columns ≤ markerLimit then .ok ((above ++ [markerRow]).flatMap (Row.spans c))
        else .error (.markerTooFar columns) := by
  obtain ⟨start, shown, before, hmarks, hcolumns⟩ := c.source.exists_marks pos
  refine ⟨_, start, shown, before, hmarks, SourceFile.getLast?_excerpt _ hmarks.lineText, ?_⟩
  rw [← hcolumns]
  exact c.snippet_eq pos marker

/-- **Behind too many blanks there is no room for the marker, and nothing is drawn.** -/
theorem snippet_signBehind :
    ¬ ∃ spans, (Canvas.mk .standard (.ofText "main" (signBehind (markerLimit + 1)) none) 1).snippet
      (markerLimit + 1) ⟨Config.standard.errorStyle, Config.standard.underline, ""⟩ = .ok spans := by
  have hcolumns := @columnsBefore_signBehind (markerLimit + 1)
    (.ofText "main" (signBehind (markerLimit + 1)) none) rfl
  rintro ⟨spans, hspans⟩
  rw [Canvas.snippet_eq, hcolumns, if_neg (Nat.not_succ_le_self markerLimit)] at hspans
  simp at hspans

end ScriptCheck
