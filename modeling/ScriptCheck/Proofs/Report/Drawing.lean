import ScriptCheck.Proofs.OnLine
import ScriptCheck.Proofs.SourceFile
import ScriptCheck.Report.Render

/-!
# Diagnostics can always be drawn

Drawing works for every offset: one behind the text is moved to its end, and what the table of lines
does not know is replaced by something. For the diagnostics of a script none of this is needed.

* `SourceFile.Locates` — what is known of an offset that lies on a line
* `Diagnostic.draw?` — drawing that gives up where something is not known
* `compile_diagnostics_locate` — the diagnostics of a script are drawn as they are
-/

namespace ScriptCheck

open Text

/-! ## Places in a file -/

/-- What the table of a file knows of a byte offset: it lies in the text and in no character, on a
line with an index and a start, and not behind what is shown of the line. -/
structure SourceFile.Locates (f : SourceFile) (p index start : Nat) (shown before : List Char) :
    Prop where
  le_size : p ≤ f.size
  boundary : (takeBytes? f.text.toList p).isSome = true
  lineIndex : f.lineIndex? p = some index
  lineStart : f.lineStart? index = some start
  lineText : f.lineText? index = some shown
  between : charsBetween? f.text.toList start p = some before
  start_le : start ≤ p
  le_end : p ≤ start + byteSize shown

/-- Only a carriage return at the end of a line is not shown. -/
theorem byteSize_le_shown (start : Nat) {front back : List Char}
    (h : back = [] → front.getLast? ≠ some '\r') :
    byteSize front ≤ byteSize (Line.shown ⟨start, front ++ back⟩) := by
  rw [Line.shown]
  by_cases hback : back = []
  · subst hback
    rw [List.append_nil, if_neg (h rfl)]
  · split
    · rw [List.dropLast_append_of_ne_nil hback, byteSize_append]
      omega
    · rw [byteSize_append]
      omega

/-- What is before a cut is shown of its line, if no end of a line is cut off. -/
theorem byteSize_le_shown_of_cut (start : Nat) {head tail after : List Char}
    (h : (head ++ tail).getLast? = some '\r' → ∃ c ∈ after.head?, c ≠ '\n') :
    byteSize tail ≤ byteSize (Line.shown ⟨start, tail ++ restOfLine after⟩) := by
  refine byteSize_le_shown start fun hrest hlast => ?_
  -- a carriage return at the end of the line before the cut is one at the cut
  have hlast' : (head ++ tail).getLast? = some '\r' := by
    rw [List.getLast?_append, hlast]
    rfl
  obtain ⟨c, hc, hne⟩ := h hlast'
  obtain ⟨cs, rfl⟩ := List.head?_eq_some_iff.1 hc
  simp [restOfLine, hne] at hrest

namespace SourceFile

variable {f : SourceFile} {p index start : Nat} {shown before : List Char}

/-- **A place on a line is located, and what stands before it on the line is what is measured.** -/
theorem exists_locates (h : OnLine f.text.toList p) :
    ∃ index start shown before, f.Locates p index start shown before ∧
      f.shownBefore index p = expandTabs before := by
  obtain ⟨front, after, htext, rfl, hreturn⟩ := h
  obtain ⟨head, tail, rfl, -, hline, hindex⟩ := exists_line_of_cut htext
  have hsplit : byteSize (head ++ tail) = byteSize head + byteSize tail :=
    byteSize_append head tail
  have hboundary : takeBytes? f.text.toList (byteSize (head ++ tail)) = some (head ++ tail) := by
    rw [htext, takeBytes?_append]
  have hbetween : charsBetween? f.text.toList (byteSize head) (byteSize (head ++ tail)) =
      some tail := by
    rw [htext, hsplit]
    exact charsBetween?_append head tail after
  have hbefore : f.shownBefore ((head ++ tail).count '\n') (byteSize (head ++ tail)) =
      expandTabs tail := by
    rw [shownBefore, hline, hsplit]
    dsimp only
    rw [Nat.add_sub_cancel_left, takeBytes?_append]
    rfl
  have hshown := byteSize_le_shown_of_cut (byteSize head) hreturn
  refine ⟨_, _, _, _, ⟨byteSize_le_size htext, ?_, hindex, lineStart?_of_getElem? hline,
    lineText?_of_getElem? hline, hbetween, ?_, ?_⟩, hbefore⟩
  · rw [hboundary]
    rfl
  · show byteSize head ≤ _
    omega
  · show _ ≤ byteSize head + _
    omega

/-- An offset in the text is not moved. -/
theorem clamp_eq_self (h : p ≤ f.size) : f.clamp p = p := Nat.min_eq_left h

theorem Locates.lineColumn (h : f.Locates p index start shown before) :
    f.lineColumn? p = some (f.place p) := by
  have hknown : f.lineColumn? p = some (index + 1, p - start + 1) := by
    simp [lineColumn?, h.lineIndex, h.lineStart]
  rw [place, clamp_eq_self h.le_size, hknown]
  rfl

/-- A line above one that exists does exist. -/
theorem lineText_of_le {i : Nat} (h : f.lineText? index = some shown) (hi : i ≤ index) :
    (f.lineText? i).map expandTabs = some (f.shownLine i) := by
  have hlt : index < f.lines.size := by
    rw [lineText?, Option.map_eq_some_iff] at h
    obtain ⟨line, hline, -⟩ := h
    exact (Array.getElem?_eq_some_iff.1 hline).1
  have hlt : i < f.lines.size := Nat.lt_of_le_of_lt hi hlt
  rw [shownLine, lineText?_of_getElem? (Array.getElem?_eq_getElem hlt)]
  rfl

end SourceFile

/-! ## Drawing without anything to fall back on -/

namespace Canvas

/-- A line of the source, if there is one with the index. -/
def line? (c : Canvas) (index : Nat) : Option (List Span) := do
  let text ← c.source.lineText? index
  return [c.gutter (toString (index + 1)), plain (String.ofList (expandTabs text) ++ "\n")]

/-- A snippet of the source, if its byte offset lies on a line and in no character. -/
def snippet? (c : Canvas) (pos : Nat) (marker : Marker) :
    Option (Except RenderFault (List Span)) := do
  let index ← c.source.lineIndex? pos
  let lines ← (c.context index).mapM c.line?
  let start ← c.source.lineStart? index
  let before ← charsBetween? c.source.text.toList start pos
  let columns := columnWidth (expandTabs before)
  return if markerLimit < columns then .error (.markerTooFar columns)
    else .ok
      ([c.gutter "", plain "\n"] ++ lines.flatten ++
        [c.gutter "", ⟨some marker.style, blanks columns ++ marker.sign ++ marker.text⟩,
          plain "\n"])

end Canvas

namespace Diagnostic

/-- The greatest line number that drawing a diagnostic needs, if all its places have a line. -/
def lastLine? (d : Diagnostic) (source : SourceFile) : Option Nat := do
  let primary ← source.lineColumn? d.pos
  let secondary ← d.labels.mapM fun l => source.lineColumn? l.pos
  return (secondary.map Prod.fst).foldl max primary.1

/-- The place of a diagnostic, if it has a line. -/
def location? (d : Diagnostic) (c : Canvas) : Option Span := do
  let (line, column) ← c.source.lineColumn? d.pos
  let place := ":" ++ toString line ++ ":" ++ toString column
  let path := match c.source.path with
    | some path => " (" ++ path ++ place ++ ")"
    | none => ""
  return ⟨some c.config.subtleStyle,
    blanks c.numberWidth ++ c.config.arrow ++ " " ++ c.source.name ++ place ++ path ++ "\n"⟩

/-- Draws a diagnostic, if everything is known of its places. -/
def draw? (d : Diagnostic) (source : SourceFile) (config : Config) :
    Option (Except RenderFault (List Span)) := do
  let lastLine ← d.lastLine? source
  let canvas : Canvas := ⟨config, source, (toString lastLine).length⟩
  let location ← d.location? canvas
  let primary ← canvas.snippet? d.pos ⟨config.errorStyle, config.underline, ""⟩
  let secondary ← d.labels.mapM fun l =>
    canvas.snippet? l.pos ⟨config.labelStyle, config.labelUnderline, " " ++ l.message⟩
  return do
    let primary ← primary
    let secondary ← secondary.mapM id
    return d.header config ++ [location] ++ primary ++ secondary.flatten ++ [Canvas.plain "\n"]

end Diagnostic

/-! ## What is drawn -/

section

variable {c : Canvas} {d : Diagnostic} {p : Nat}

/-- The lines of a snippet are all there. -/
theorem Canvas.context_eq_some {index : Nat} {shown : List Char}
    (h : c.source.lineText? index = some shown) :
    (c.context index).mapM c.line? = some ((c.context index).map c.line) := by
  refine mapM_eq_some_map fun i hi => ?_
  have hle : i ≤ index := by
    rw [Canvas.context, List.mem_range'_1] at hi
    omega
  obtain ⟨text, htext, hshown⟩ := Option.map_eq_some_iff.1 (SourceFile.lineText_of_le h hle)
  rw [Canvas.line?, htext, Canvas.line, ← hshown]
  rfl

/-- A snippet at a place on a line is drawn as it is. -/
theorem Canvas.snippet_eq_some (h : OnLine c.source.text.toList p) (marker : Marker) :
    c.snippet? p marker = some (c.snippet p marker) := by
  obtain ⟨index, start, shown, before, hlocates, hbefore⟩ := SourceFile.exists_locates h
  rw [Canvas.snippet, SourceFile.clamp_eq_self hlocates.le_size]
  simp only [Canvas.snippet?, hlocates.lineIndex, hlocates.lineStart, hlocates.between,
    Canvas.context_eq_some hlocates.lineText, Option.getD_some, hbefore, List.flatMap_def,
    Option.bind_eq_bind, Option.bind_some, Option.pure_def]

theorem lineColumn_eq_some {f : SourceFile} (h : OnLine f.text.toList p) :
    f.lineColumn? p = some (f.place p) := by
  obtain ⟨_, _, _, _, hlocates, -⟩ := SourceFile.exists_locates h
  exact hlocates.lineColumn

/-- **A diagnostic whose places are all on lines is drawn as it is.** -/
theorem draw_eq_some {f : SourceFile} (h : ∀ p ∈ d.places, OnLine f.text.toList p)
    (config : Config) : d.draw? f config = some (d.render f config) := by
  have hpos : OnLine f.text.toList d.pos := h d.pos List.mem_cons_self
  have hlabels : ∀ l ∈ d.labels, OnLine f.text.toList l.pos := fun l hl =>
    h l.pos (List.mem_cons_of_mem _ (List.mem_map_of_mem hl))
  have hcolumns : (d.labels.mapM fun l => f.lineColumn? l.pos) =
      some (d.labels.map fun l => f.place l.pos) :=
    mapM_eq_some_map fun l hl => lineColumn_eq_some (hlabels l hl)
  have hlast : d.lastLine? f = some (d.lastLine f) := by
    rw [Diagnostic.lastLine?, lineColumn_eq_some hpos, hcolumns, Diagnostic.lastLine]
    simp [Function.comp_def]
  have hlocation (canvas : Canvas) (hsource : canvas.source = f) :
      d.location? canvas = some (d.location canvas) := by
    rw [Diagnostic.location?, hsource, lineColumn_eq_some hpos, Diagnostic.location, hsource]
    rfl
  have hprimary (canvas : Canvas) (hsource : canvas.source = f) (marker : Marker) :
      canvas.snippet? d.pos marker = some (canvas.snippet d.pos marker) :=
    Canvas.snippet_eq_some (hsource ▸ hpos) marker
  have hsecondary (canvas : Canvas) (hsource : canvas.source = f) (marker : Label → Marker) :
      (d.labels.mapM fun l => canvas.snippet? l.pos (marker l)) =
        some (d.labels.map fun l => canvas.snippet l.pos (marker l)) :=
    mapM_eq_some_map fun l hl => Canvas.snippet_eq_some (hsource ▸ hlabels l hl) (marker l)
  rw [Diagnostic.draw?, hlast]
  simp only [Option.bind_eq_bind, Option.bind_some, hlocation, hprimary, hsecondary,
    Option.pure_def, Diagnostic.render, List.mapM_map, Function.comp_def, id]

end

/-- **Every diagnostic of a script, and every label of it, is at a byte offset in the text and in no
character, on a line and not behind what is shown of it. So the diagnostics of a script are drawn
without moving an offset and without anything to fall back on.** -/
theorem compile_diagnostics_locate (f : SourceFile) :
    (∀ d ∈ (compile f.text).diagnostics, ∀ p ∈ d.places, f.clamp p = p ∧
      ∃ index start shown before, f.Locates p index start shown before) ∧
      ∀ d ∈ (compile f.text).diagnostics, ∀ config,
        d.draw? f config = some (d.render f config) := by
  refine ⟨fun d hd p hp => ?_, fun d hd config => ?_⟩
  · obtain ⟨index, start, shown, before, hlocates, -⟩ :=
      SourceFile.exists_locates (onLine_of_mem_diagnostics hd p hp)
    exact ⟨SourceFile.clamp_eq_self hlocates.le_size, index, start, shown, before, hlocates⟩
  · exact draw_eq_some (onLine_of_mem_diagnostics hd) config

end ScriptCheck
