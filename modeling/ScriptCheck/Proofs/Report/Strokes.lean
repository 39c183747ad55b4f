import Mathlib.Data.Nat.Digits.Lemmas
import ScriptCheck.Proofs.Report.Rows

/-!
# Drawing stroke by stroke

A diagnostic can also be drawn by a hand that leads the pen of a terminal: it switches a style on,
writes, and switches every style off. A stroke is made before the next one is thought of, so that
what is there stays when drawing breaks off. And the hand takes nothing for granted: it breaks off
where a slice of the text is none, where a number is taken from a smaller one, where zero has no
logarithm, and where a text is set in a column for which there is no room.

Still, only the last of these happens, and only to markers.

* `Stroke`, `Paints` — what a pen is told, and the spans that come of it
* `Sketch` — strokes, and what they lead to
* `Sketch.diagnostic` — a diagnostic drawn this way
* `Sketch.Draws`, `Sketch.Breaks` — a sketch comes to its end, or breaks off at a marker
* `draws_diagnostic`, `breaks_diagnostic` — what becomes of a diagnostic
* `render_completes_iff` — a diagnostic is drawn exactly if its markers fit
-/

namespace ScriptCheck

open Text

/-! ## Strokes -/

/-- What the pen of a terminal is told. -/
inductive Stroke where
  | switchOn (style : Style)
  | write (text : String)
  | switchOff
  deriving DecidableEq, Repr

/-- What a stroke writes. Only on a terminal with colours there is something to switch. -/
def Stroke.text (color : Bool) : Stroke → String
  | .switchOn style => if color then style.sequence else ""
  | .write text => text
  | .switchOff => if color then resetSequence else ""

/-- What strokes write. -/
def writeStrokes (color : Bool) (strokes : List Stroke) : String :=
  String.join (strokes.map (Stroke.text color))

/-- Strokes paint spans one after the other. The text of a span, in one piece or in several, is
written when no style is on, or else its style is switched on directly before the text and off
directly behind it. -/
inductive Paints : List Stroke → List Span → Prop
  | nil : Paints [] []
  | plain {texts : List String} {strokes : List Stroke} {spans : List Span}
      (h : Paints strokes spans) :
      Paints (texts.map .write ++ strokes) (⟨none, String.join texts⟩ :: spans)
  | styled {style : Style} {texts : List String} {strokes : List Stroke} {spans : List Span}
      (h : Paints strokes spans) :
      Paints (.switchOn style :: texts.map .write ++ .switchOff :: strokes)
        (⟨some style, String.join texts⟩ :: spans)

section

variable {strokes strokes' : List Stroke} {spans spans' : List Span} {color : Bool}

theorem writeStrokes_append (color : Bool) (strokes strokes' : List Stroke) :
    writeStrokes color (strokes ++ strokes') =
      writeStrokes color strokes ++ writeStrokes color strokes' := by
  simp [writeStrokes]

theorem writeStrokes_map_write (color : Bool) (texts : List String) :
    writeStrokes color (texts.map .write) = String.join texts := by
  simp [writeStrokes, Function.comp_def, Stroke.text]

theorem writeSpans_cons (color : Bool) (span : Span) (spans : List Span) :
    writeSpans color (span :: spans) =
      (if color then span.colored else span.text) ++ writeSpans color spans := by
  simp [writeSpans]

theorem Paints.append (h : Paints strokes spans) (h' : Paints strokes' spans') :
    Paints (strokes ++ strokes') (spans ++ spans') := by
  induction h with
  | nil => exact h'
  | plain _ ih =>
    rw [List.append_assoc]
    exact .plain ih
  | styled _ ih =>
    simp only [List.cons_append, List.append_assoc]
    exact .styled ih

/-- **What strokes write is the text of the spans that they paint.** -/
theorem Paints.writeStrokes_eq (h : Paints strokes spans) (color : Bool) :
    writeStrokes color strokes = writeSpans color spans := by
  induction h with
  | nil => rfl
  | plain _ ih =>
    rw [writeStrokes_append, writeStrokes_map_write, ih, writeSpans_cons]
    cases color <;> rfl
  | @styled style texts strokes spans _ ih =>
    have hsplit : Stroke.switchOn style :: texts.map .write ++ .switchOff :: strokes =
        [.switchOn style] ++ texts.map .write ++ [.switchOff] ++ strokes := by simp
    rw [hsplit, writeStrokes_append, writeStrokes_append, writeStrokes_append,
      writeStrokes_map_write, ih, writeSpans_cons]
    cases color <;> simp [writeStrokes, Stroke.text, Span.colored]

end

/-! ## Sketches -/

/-- Why a sketch breaks off. -/
inductive Break where
  /-- What was to be cut out of a text is no slice of it. -/
  | slice
  /-- A number was to be taken from a smaller one. -/
  | difference
  /-- The logarithm of zero was wanted. -/
  | logarithm
  /-- A text was to be set in a column of so many places. -/
  | column (width : Nat)
  deriving DecidableEq, Repr

/-- Strokes, and what they lead to. They stay if a sketch breaks off behind them. -/
structure Sketch (α : Type) where
  strokes : List Stroke
  result : Except Break α

namespace Sketch

variable {α β : Type}

instance : Monad Sketch where
  pure a := ⟨[], .ok a⟩
  bind x f :=
    match x.result with
    | .ok a => ⟨x.strokes ++ (f a).strokes, (f a).result⟩
    | .error e => ⟨x.strokes, .error e⟩

theorem bind_of_ok {x : Sketch α} {a : α} (h : x.result = .ok a) (f : α → Sketch β) :
    x >>= f = ⟨x.strokes ++ (f a).strokes, (f a).result⟩ := by
  show (match x.result with | .ok a => _ | .error e => _ : Sketch β) = _
  rw [h]

theorem bind_of_error {x : Sketch α} {e : Break} (h : x.result = .error e) (f : α → Sketch β) :
    x >>= f = ⟨x.strokes, .error e⟩ := by
  show (match x.result with | .ok a => _ | .error e => _ : Sketch β) = _
  rw [h]

instance : LawfulMonad Sketch := by
  refine LawfulMonad.mk' Sketch (fun x => ?_) (fun _ _ => rfl) fun x f g => ?_
  · obtain ⟨strokes, result⟩ := x
    cases result with
    | ok a => exact congrArg (Sketch.mk · (.ok a)) (List.append_nil strokes)
    | error e => rfl
  · obtain ⟨strokes, result⟩ := x
    cases result with
    | error e => rfl
    | ok a =>
      show (⟨strokes ++ (f a).strokes, (f a).result⟩ : Sketch _) >>= g =
        ⟨strokes ++ (f a >>= g).strokes, (f a >>= g).result⟩
      obtain ⟨strokes', result⟩ := f a
      cases result with
      | error e => rfl
      | ok b => exact congrArg (Sketch.mk · _) (List.append_assoc strokes strokes' _)

/-- One stroke. -/
def stroke (s : Stroke) : Sketch Unit := ⟨[s], .ok ()⟩

/-- To write something. -/
def write (text : String) : Sketch Unit := stroke (.write text)

/-- A sketch that breaks off before its first stroke. -/
def breakOff (e : Break) : Sketch α := ⟨[], .error e⟩

/-! ### What can go wrong -/

/-- A slice of the text of a file. -/
def slice (f : SourceFile) (start stop : Nat) : Sketch (List Char) :=
  match f.slice? start stop with
  | some cs => pure cs
  | none => breakOff .slice

/-- How much greater a number is than another one. -/
def difference (a b : Nat) : Sketch Nat := if b ≤ a then pure (a - b) else breakOff .difference

/-- The logarithm of a number, rounded down. -/
def logarithm (n : Nat) : Sketch Nat := if n = 0 then breakOff .logarithm else pure (Nat.log 10 n)

/-- A text at the right end of a column of so many places. -/
def column (width : Nat) (s : String) : Sketch String :=
  if width ≤ markerLimit then pure (alignRight width s) else breakOff (.column width)

/-! ### What is looked up -/

/-- The line and the column of a byte offset. -/
def lineColumn (f : SourceFile) (byte : Nat) : Sketch (Option (Nat × Nat)) :=
  match f.lineIndex? byte with
  | none => pure none
  | some index =>
    match f.lineStart? index with
    | none => pure none
    | some start => do
      let before ← difference byte start
      return some (index + 1, before + 1)

/-- The line and the column at which a byte offset is reported. -/
def place (f : SourceFile) (pos : Nat) : Sketch (Nat × Nat) := do
  let place ← lineColumn f (f.clamp pos)
  return place.getD (1, 1)

/-- The text of a line without its end. -/
def lineText (f : SourceFile) (index : Nat) : Sketch (Option (List Char)) :=
  match f.lineStart? index with
  | none => pure none
  | some start => do
    let line ← slice f start ((f.lineStart? (index + 1)).getD f.size)
    return some (withoutLast '\r' (withoutLast '\n' line))

/-- The width of the column of line numbers: the digits of the greatest number in it. -/
def numberWidth (f : SourceFile) (d : Diagnostic) : Sketch Nat := do
  let places ← d.places.mapM (place f)
  let last := (places.map Prod.fst).foldl max 1
  let digits ← logarithm last
  return 1 + digits

/-! ### What is drawn -/

/-- The column of line numbers in one line, with a number or without. -/
def gutter (c : Canvas) (number : String) : Sketch Unit := do
  stroke (.switchOn c.config.subtleStyle)
  let field ← column c.numberWidth number
  write field
  write (" " ++ c.config.gutter ++ " ")
  stroke .switchOff

/-- A line of the source. -/
def line (c : Canvas) (index : Nat) : Sketch Unit := do
  let text ← lineText c.source index
  gutter c (toString (index + 1))
  write (String.ofList (expandTabs (text.getD [])) ++ "\n")

/-- The rows of a snippet above the one with the marker. -/
def rowsAbove (c : Canvas) (index : Nat) : Sketch Unit := do
  gutter c ""
  write "\n"
  (c.context index).forM (line c)

/-- A marker behind so many blanks, and the end of its row. -/
def mark (columns : Nat) (marker : Marker) : Sketch Unit := do
  stroke (.switchOn marker.style)
  let indent ← column columns ""
  write (indent ++ marker.sign)
  write marker.text
  stroke .switchOff
  write "\n"

/-- A snippet of the source with a marker at a byte offset. -/
def snippet (c : Canvas) (pos : Nat) (marker : Marker) : Sketch Unit := do
  let pos := c.source.clamp pos
  let index := (c.source.lineIndex? pos).getD 0
  rowsAbove c index
  let start := (c.source.lineStart? index).getD 0
  let before := (c.source.slice? start pos).getD []
  gutter c ""
  mark (columnWidth (expandTabs before)) marker

/-- The kind of a diagnostic and its message. -/
def header (d : Diagnostic) (config : Config) : Sketch Unit := do
  stroke (.switchOn config.errorStyle)
  write ("error[" ++ d.stage.describe ++ "]:")
  stroke .switchOff
  write (" " ++ d.message ++ "\n")

/-- The place of a diagnostic. -/
def location (c : Canvas) (d : Diagnostic) : Sketch Unit := do
  let (line, columnNumber) ← place c.source d.pos
  let place := ":" ++ toString line ++ ":" ++ toString columnNumber
  stroke (.switchOn c.config.subtleStyle)
  let indent ← column c.numberWidth ""
  write (indent ++ c.config.arrow ++ " " ++ c.source.name ++ place)
  match c.source.path with
  | some path => write (" (" ++ path ++ place ++ ")")
  | none => pure ()
  write "\n"
  stroke .switchOff

/-- A diagnostic. -/
def diagnostic (d : Diagnostic) (f : SourceFile) (config : Config) : Sketch Unit := do
  header d config
  let width ← numberWidth f d
  let c : Canvas := ⟨config, f, width⟩
  location c d
  (d.marks config).forM fun (pos, marker) => snippet c pos marker
  write "\n"

end Sketch

/-! ## Nothing goes wrong in looking up -/

namespace SourceFile

variable {f : SourceFile} {byte index start : Nat}

/-- The line of an offset does not start behind it. -/
theorem start_le_of_lineIndex? (hindex : f.lineIndex? byte = some index)
    (hstart : f.lineStart? index = some start) : start ≤ byte := by
  have hsize : byte ≤ f.size := by
    by_contra hlt
    rw [lineIndex?, if_pos (Nat.not_le.1 hlt)] at hindex
    contradiction
  obtain ⟨line, column, start', h⟩ := f.exists_pinpoints hsize
  have hcolumn : f.lineColumn? byte = some (index + 1, byte - start + 1) := by
    simp [lineColumn?, hindex, hstart]
  have hline : line - 1 = index := by
    have := h.lineColumn.symm.trans hcolumn
    simp only [Option.some.injEq, Prod.mk.injEq] at this
    omega
  have hstart' := h.lineStart
  rw [hline, hstart, Option.some.injEq] at hstart'
  exact hstart' ▸ h.start_le

end SourceFile

/-- A number has as many digits as its logarithm says. -/
theorem length_toString {n : Nat} (h : n ≠ 0) : (toString n).length = (Nat.digits 10 n).length := by
  rw [Nat.toString_eq_repr]
  refine eq_of_forall_ge_iff fun k => ?_
  rw [Nat.digits_length_le_iff (by omega)]
  rcases Nat.eq_zero_or_pos k with rfl | hk
  · have := n.length_repr_pos
    rw [Nat.pow_zero]
    omega
  · exact Nat.length_repr_le_iff hk

namespace Sketch

theorem lineColumn_eq (f : SourceFile) (byte : Nat) :
    lineColumn f byte = pure (f.lineColumn? byte) := by
  unfold lineColumn SourceFile.lineColumn?
  cases hindex : f.lineIndex? byte with
  | none => rfl
  | some index =>
    cases hstart : f.lineStart? index with
    | none => simp [hstart]
    | some start =>
      simp [hstart, difference, if_pos (SourceFile.start_le_of_lineIndex? hindex hstart)]

theorem place_eq (f : SourceFile) (pos : Nat) : place f pos = pure (f.place pos) := by
  rw [place, lineColumn_eq, pure_bind, SourceFile.place]

theorem lineText_eq (f : SourceFile) (index : Nat) :
    lineText f index = pure (f.lineText? index) := by
  unfold lineText
  cases hstart : f.lineStart? index with
  | none =>
    rw [SourceFile.lineText?_eq_none_iff.2 (SourceFile.lineStart?_eq_none_iff.1 hstart)]
  | some start =>
    have hindex : index < (lineSlices f.lines.toList).length := by
      rw [f.length_lineSlices, ← Nat.not_le, ← SourceFile.lineStart?_eq_none_iff, hstart]
      simp
    have hslice := List.getElem?_eq_getElem hindex
    obtain ⟨start', stop, h⟩ := f.exists_stretch hslice
    obtain rfl : start = start' := Option.some.inj (hstart.symm.trans h.lineStart)
    dsimp only
    rw [h.lineStop, slice, SourceFile.slice?, if_pos h.start_le, h.between, pure_bind,
      SourceFile.lineText?_of_slice hslice]

/-- The greatest line number of a diagnostic is the greatest one of all its places. -/
theorem foldl_places (f : SourceFile) (d : Diagnostic) :
    ((d.places.map f.place).map Prod.fst).foldl max 1 = d.lastLine f := by
  have hone : max 1 (f.place d.pos).1 = (f.place d.pos).1 := by
    rw [f.fst_place]
    omega
  simp [Diagnostic.places, Diagnostic.lastLine, hone, Function.comp_def]

theorem numberWidth_eq (f : SourceFile) (d : Diagnostic) :
    numberWidth f d = pure (toString (d.lastLine f)).length := by
  have hne : d.lastLine f ≠ 0 := Nat.ne_of_gt (d.lastLine_pos f)
  rw [numberWidth, mapM_eq_pure_map fun p _ => place_eq f p, pure_bind]
  dsimp only
  rw [foldl_places, logarithm, if_neg hne, pure_bind, length_toString hne,
    Nat.length_digits 10 _ (by omega) hne, Nat.add_comm]

theorem column_eq {width : Nat} (h : width ≤ markerLimit) (s : String) :
    column width s = pure (alignRight width s) := if_pos h

/-! ## What comes of a sketch -/

/-- A sketch comes to its end, and has painted spans. -/
def Draws (x : Sketch Unit) (spans : List Span) : Prop :=
  x.result = .ok () ∧ Paints x.strokes spans

/-- A sketch breaks off when it has painted spans and has just switched a style on. -/
def Breaks (x : Sketch Unit) (e : Break) (spans : List Span) (style : Style) : Prop :=
  x.result = .error e ∧ ∃ strokes, x.strokes = strokes ++ [.switchOn style] ∧ Paints strokes spans

section

variable {x y : Sketch Unit} {e : Break} {spans spans' : List Span} {style : Style} {α : Type}
  {f : α → Sketch Unit} {g : α → List Span} {as bs : List α} {a : α}

theorem Draws.andThen (hx : x.Draws spans) (hy : y.Draws spans') :
    (x >>= fun _ => y).Draws (spans ++ spans') := by
  rw [bind_of_ok hx.1]
  exact ⟨hy.1, hx.2.append hy.2⟩

theorem Draws.andBreaks (hx : x.Draws spans) (hy : y.Breaks e spans' style) :
    (x >>= fun _ => y).Breaks e (spans ++ spans') style := by
  obtain ⟨herror, strokes, hstrokes, hpaints⟩ := hy
  rw [bind_of_ok hx.1]
  refine ⟨herror, x.strokes ++ strokes, ?_, hx.2.append hpaints⟩
  rw [hstrokes, List.append_assoc]

theorem Breaks.first (hx : x.Breaks e spans style) (k : Unit → Sketch Unit) :
    (x >>= k).Breaks e spans style := by
  rw [bind_of_error hx.1]
  exact ⟨rfl, hx.2⟩

/-- What is drawn for each element is drawn for all of them. -/
theorem Draws.forM (h : ∀ a ∈ as, (f a).Draws (g a)) : (as.forM f).Draws (as.flatMap g) := by
  induction as with
  | nil => exact ⟨rfl, .nil⟩
  | cons a as ih =>
    exact (h a List.mem_cons_self).andThen (ih fun b hb => h b (List.mem_cons_of_mem a hb))

/-- What breaks off for an element breaks off behind what is drawn for those in front of it. -/
theorem Breaks.forM (h : ∀ a ∈ as, (f a).Draws (g a)) (ha : (f a).Breaks e spans style) :
    ((as ++ a :: bs).forM f).Breaks e (as.flatMap g ++ spans) style := by
  induction as with
  | nil => exact ha.first _
  | cons b as ih =>
    rw [List.flatMap_cons, List.append_assoc]
    exact (h b List.mem_cons_self).andBreaks (ih fun c hc => h c (List.mem_cons_of_mem b hc))

/-- Text in no style. -/
theorem draws_write (text : String) : (write text).Draws [Canvas.plain text] := by
  have hjoin : String.join [text] = text := by simp
  have hpaints : Paints ([text].map .write ++ []) [⟨none, String.join [text]⟩] := .plain .nil
  rw [hjoin] at hpaints
  exact ⟨rfl, hpaints⟩

/-- Text in a style, written in several pieces. -/
theorem draws_styled {text : String} (style : Style) (texts : List String)
    (h : String.join texts = text) (hresult : x.result = .ok ())
    (hstrokes : x.strokes = .switchOn style :: texts.map .write ++ [.switchOff]) :
    x.Draws [⟨some style, text⟩] := by
  rw [Draws, hstrokes, ← h]
  exact ⟨hresult, .styled .nil⟩

end

/-! ## What is drawn -/

section

variable {c : Canvas} {pos : Nat} {d : Diagnostic} {f : SourceFile} {config : Config}

theorem alignRight_empty (width : Nat) : alignRight width "" = blanks width := by
  simp [alignRight]

theorem draws_gutter (hwidth : c.numberWidth ≤ markerLimit) (number : String) :
    (gutter c number).Draws [c.gutter number] := by
  rw [gutter, column_eq hwidth]
  refine draws_styled _ [_, _] ?_ rfl rfl
  simp [String.append_assoc]

theorem draws_line (hwidth : c.numberWidth ≤ markerLimit) (index : Nat) :
    (line c index).Draws (c.line index) := by
  rw [line, lineText_eq, pure_bind]
  exact (draws_gutter hwidth _).andThen (draws_write _)

theorem draws_rowsAbove (hwidth : c.numberWidth ≤ markerLimit) (pos : Nat) :
    (rowsAbove c (c.source.feedsBefore pos)).Draws ((c.rowsAbove pos).flatMap (Row.spans c)) := by
  rw [Canvas.flatMap_rowsAbove]
  exact (draws_gutter hwidth "").andThen
    ((draws_write "\n").andThen (.forM fun index _ => draws_line hwidth index))

/-- The sign of a marker is drawn behind so many blanks. -/
theorem draws_mark {columns : Nat} (h : columns ≤ markerLimit) (marker : Marker) :
    (mark columns marker).Draws
      [⟨some marker.style, blanks columns ++ marker.sign ++ marker.text⟩, Canvas.plain "\n"] := by
  have hsplit : mark columns marker = (do
      stroke (.switchOn marker.style)
      let indent ← column columns ""
      write (indent ++ marker.sign)
      write marker.text
      stroke .switchOff) >>= fun _ => write "\n" := by
    simp [mark, bind_assoc]
  rw [hsplit, column_eq h, alignRight_empty]
  refine Draws.andThen (draws_styled _ [_, _] ?_ rfl rfl) (draws_write "\n")
  simp

/-- With no room for the blanks, nothing of a marker is drawn. -/
theorem breaks_mark {columns : Nat} (h : markerLimit < columns) (marker : Marker) :
    (mark columns marker).Breaks (.column columns) [] marker.style := by
  have hcolumn : column columns "" = breakOff (.column columns) := if_neg (Nat.not_le.2 h)
  rw [mark, hcolumn]
  exact ⟨rfl, [], rfl, .nil⟩

/-- A snippet is drawn row by row. -/
theorem snippet_eq_rows (c : Canvas) (pos : Nat) (marker : Marker) :
    snippet c pos marker = (do
      rowsAbove c (c.source.feedsBefore pos)
      gutter c ""
      mark (c.source.columnsBefore pos) marker) := by
  obtain ⟨start, shown, before, hmarks, hcolumns⟩ := c.source.exists_marks pos
  rw [snippet, SourceFile.lineIndex?_clamp]
  dsimp only [Option.getD_some]
  rw [hmarks.lineStart, Option.getD_some, ← hmarks.before_eq, ← hcolumns]

/-- **A snippet whose marker fits is drawn with all its rows.** -/
theorem draws_snippet (hwidth : c.numberWidth ≤ markerLimit)
    (h : c.source.columnsBefore pos ≤ markerLimit) (marker : Marker) :
    (snippet c pos marker).Draws ((c.rows pos marker).flatMap (Row.spans c)) := by
  have hrows : (c.rows pos marker).flatMap (Row.spans c) =
      (c.rowsAbove pos).flatMap (Row.spans c) ++ ([c.gutter ""] ++
        (c.markerRow pos marker).body) := by
    simp [Canvas.rows, Row.spans, Row.digits, Canvas.markerRow]
  rw [snippet_eq_rows, hrows]
  have hbelow := (draws_gutter hwidth "").andThen (draws_mark h marker)
  exact (draws_rowsAbove hwidth pos).andThen hbelow

/-- **A snippet whose marker does not fit breaks off where its marker would stand.** -/
theorem breaks_snippet (hwidth : c.numberWidth ≤ markerLimit)
    (h : markerLimit < c.source.columnsBefore pos) (marker : Marker) :
    (snippet c pos marker).Breaks (.column (c.source.columnsBefore pos))
      ((c.rowsAbove pos ++ [Row.bare]).flatMap (Row.spans c)) marker.style := by
  have hrows : (c.rowsAbove pos ++ [Row.bare]).flatMap (Row.spans c) =
      (c.rowsAbove pos).flatMap (Row.spans c) ++ ([c.gutter ""] ++ []) := by
    simp [Row.spans, Row.digits, Row.bare]
  rw [snippet_eq_rows, hrows]
  exact (draws_rowsAbove hwidth pos).andBreaks
    ((draws_gutter hwidth "").andBreaks (breaks_mark h marker))

theorem draws_header (d : Diagnostic) (config : Config) :
    (header d config).Draws (d.header config) := by
  have hsplit : header d config = (do
      stroke (.switchOn config.errorStyle)
      write ("error[" ++ d.stage.describe ++ "]:")
      stroke .switchOff) >>= fun _ => write (" " ++ d.message ++ "\n") := by
    simp [header, bind_assoc]
  rw [hsplit]
  refine Draws.andThen (draws_styled _ [_] ?_ rfl rfl) (draws_write _)
  simp

theorem draws_location (hwidth : c.numberWidth ≤ markerLimit) (d : Diagnostic) :
    (location c d).Draws [d.location c] := by
  rw [location, place_eq, pure_bind, column_eq hwidth, alignRight_empty, Diagnostic.location]
  cases c.source.path with
  | none =>
    refine draws_styled _ [_, _] ?_ rfl rfl
    simp [String.append_assoc]
  | some path =>
    refine draws_styled _ [_, _, _] ?_ rfl rfl
    simp [String.append_assoc]

/-- A diagnostic is drawn from its header on, on its canvas. -/
theorem diagnostic_eq (d : Diagnostic) (f : SourceFile) (config : Config) :
    diagnostic d f config = (do
      header d config
      location (d.canvas f config) d
      (d.marks config).forM fun (pos, marker) => snippet (d.canvas f config) pos marker
      write "\n") := by
  rw [diagnostic, numberWidth_eq, pure_bind]
  rfl

/-- **A diagnostic whose markers fit is drawn with all its rows.** -/
theorem draws_diagnostic (hwidth : (d.canvas f config).numberWidth ≤ markerLimit)
    (h : d.MarkersFit f) :
    (diagnostic d f config).Draws (d.header config ++ [d.location (d.canvas f config)] ++
      (d.rows f config).flatMap (Row.spans (d.canvas f config)) ++ [Canvas.plain "\n"]) := by
  rw [diagnostic_eq, List.append_assoc, List.append_assoc, Diagnostic.rows, List.flatMap_assoc]
  refine (draws_header d config).andThen ((draws_location hwidth d).andThen
    (Draws.andThen (.forM fun mark hmark => ?_) (draws_write "\n")))
  exact draws_snippet hwidth ((Diagnostic.markersFit_iff config).1 h mark hmark) _

/-- **A diagnostic breaks off at the first marker that does not fit.** -/
theorem breaks_diagnostic (hwidth : (d.canvas f config).numberWidth ≤ markerLimit)
    {front back : List (Nat × Marker)} {marker : Marker}
    (hmarks : d.marks config = front ++ (pos, marker) :: back)
    (hfront : ∀ mark ∈ front, f.columnsBefore mark.1 ≤ markerLimit)
    (h : markerLimit < f.columnsBefore pos) :
    (diagnostic d f config).Breaks (.column (f.columnsBefore pos))
      (d.header config ++ [d.location (d.canvas f config)] ++
        ((front.flatMap fun (pos, marker) => (d.canvas f config).rows pos marker) ++
          (d.canvas f config).rowsAbove pos ++ [Row.bare]).flatMap
            (Row.spans (d.canvas f config))) marker.style := by
  rw [diagnostic_eq, hmarks, List.append_assoc, List.append_assoc, List.flatMap_append,
    List.flatMap_assoc]
  refine (draws_header d config).andBreaks ((draws_location hwidth d).andBreaks
    (Breaks.first (Breaks.forM (a := (pos, marker)) (fun mark hmark => ?_) ?_) _))
  · exact draws_snippet hwidth (hfront mark hmark) _
  · exact breaks_snippet hwidth h marker

end

end Sketch

/-! ## Which diagnostics are drawn -/

section

variable {d : Diagnostic} {f : SourceFile} {config : Config}

theorem feedsBefore_le (f : SourceFile) (pos : Nat) : f.feedsBefore pos ≤ f.size :=
  calc
    f.feedsBefore pos ≤ (f.bytes.take (f.clamp pos)).length := List.count_le_length
    _ ≤ f.bytes.length := List.length_take_le' _ _
    _ = f.size := f.length_bytes

/-- Line numbers have no more digits than there is room for. -/
theorem numberWidth_le (h : f.size < 2 ^ 64) (d : Diagnostic) (config : Config) :
    (d.canvas f config).numberWidth ≤ markerLimit := by
  have hlast : d.lastLine f ≤ f.size + 1 :=
    Diagnostic.lastLine_le_iff.2 fun p _ => Nat.succ_le_succ (feedsBefore_le f p)
  have hdigits : (toString (d.lastLine f)).length ≤ 20 := by
    rw [Nat.toString_eq_repr, Nat.length_repr_le_iff (by omega)]
    omega
  exact Nat.le_trans hdigits (by decide)

/-- A diagnostic whose markers do not all fit breaks off behind some of its rows, as drawing it
fails. -/
theorem exists_breaks (config : Config)
    (hwidth : (d.canvas f config).numberWidth ≤ markerLimit) (h : ¬ d.MarkersFit f) :
    ∃ p ∈ d.places, ∃ (rows : List Row) (style : Style), markerLimit < f.columnsBefore p ∧
      (∀ r ∈ rows, r ∈ d.rows f config ∨ r = Row.bare) ∧
      (Sketch.diagnostic d f config).Breaks (.column (f.columnsBefore p))
        (d.header config ++ [d.location (d.canvas f config)] ++
          rows.flatMap (Row.spans (d.canvas f config))) style ∧
      d.render f config = .error (.markerTooFar (f.columnsBefore p)) := by
  rw [Diagnostic.markersFit_iff config] at h
  obtain ⟨front, ⟨p, marker⟩, back, hmarks, hfront, hp⟩ := exists_first_not h
  have hp : markerLimit < f.columnsBefore p := Nat.lt_of_not_le hp
  have hplaces : d.places = front.map Prod.fst ++ p :: back.map Prod.fst := by
    rw [← Diagnostic.map_fst_marks d config, hmarks]
    simp
  refine ⟨p, by simp [hplaces], _, _, hp, fun r hr => ?_,
    Sketch.breaks_diagnostic hwidth hmarks hfront hp, ?_⟩
  · simp only [Diagnostic.rows, hmarks, Canvas.rows, List.mem_append, List.flatMap_append,
      List.flatMap_cons, List.mem_singleton] at hr ⊢
    rcases hr with (hmem | hmem) | rfl
    · exact .inl (.inl hmem)
    · exact .inl (.inr (.inl (.inl hmem)))
    · exact .inr rfl
  · exact Diagnostic.render_eq_error hplaces (List.forall_mem_map.2 hfront) hp config

/-- **A diagnostic is drawn exactly if there is room for the markers at all its places: no more than
65535 columns are before any of them on its line. Where slices of the text, differences, logarithms
and the places in every column are looked into, stroke by stroke, none of them fails either, but for
the column before the first marker that does not fit; and what is painted are the same spans.** -/
theorem render_completes_iff (d : Diagnostic) (f : SourceFile) (config : Config) :
    ((∃ spans, d.render f config = .ok spans) ↔ ∀ p ∈ d.places, f.columnsBefore p ≤ 65535) ∧
      (f.size < 2 ^ 64 →
        ((Sketch.diagnostic d f config).result = .ok () ↔
          ∀ p ∈ d.places, f.columnsBefore p ≤ 65535) ∧
        (∀ spans, d.render f config = .ok spans → (Sketch.diagnostic d f config).Draws spans) ∧
        ∀ e, (Sketch.diagnostic d f config).result = .error e → ∃ p ∈ d.places,
          65535 < f.columnsBefore p ∧ e = .column (f.columnsBefore p) ∧
            d.render f config = .error (.markerTooFar (f.columnsBefore p))) := by
  have hcompletes : (∃ spans, d.render f config = .ok spans) ↔ d.MarkersFit f := by
    simp [Diagnostic.render_eq_ok_iff]
  refine ⟨hcompletes, fun hsize => ?_⟩
  have hwidth := numberWidth_le hsize d config
  by_cases hfits : d.MarkersFit f
  · have hdraws := Sketch.draws_diagnostic hwidth hfits
    refine ⟨⟨fun _ => hfits, fun _ => hdraws.1⟩, fun spans hspans => ?_, fun e he => ?_⟩
    · rw [(Diagnostic.render_eq_ok_iff.1 hspans).2]
      exact hdraws
    · rw [hdraws.1] at he
      cases he
  · obtain ⟨p, hp, rows, style, hlimit, -, hbreaks, hrender⟩ := exists_breaks config hwidth hfits
    refine ⟨⟨fun h => ?_, fun h => absurd h hfits⟩, fun spans hspans => ?_, fun e he => ?_⟩
    · rw [hbreaks.1] at h
      cases h
    · exact absurd (Diagnostic.render_eq_ok_iff.1 hspans).1 hfits
    · rw [hbreaks.1, Except.error.injEq] at he
      exact ⟨p, hp, hlimit, he.symm, hrender⟩

/-- A sketch comes to its end with a place inside a character and a label behind the text. -/
theorem completes_inside_char :
    (Sketch.diagnostic ⟨.grammatical, 1, "m", [⟨100, "l"⟩]⟩ (.ofText "main" "é\tx" none)
      .standard).result = .ok () :=
  ((render_completes_iff ⟨.grammatical, 1, "m", [⟨100, "l"⟩]⟩ (.ofText "main" "é\tx" none)
    .standard).2 (by decide)).1.2 (by decide)

end

end ScriptCheck
