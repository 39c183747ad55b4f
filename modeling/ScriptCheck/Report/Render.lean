import ScriptCheck.Diagnostic
import ScriptCheck.Report.Style
import ScriptCheck.SourceFile
import ScriptCheck.Text.ColumnWidth

/-!
# Drawing diagnostics

A diagnostic is drawn as a header, its place, and a snippet of the source for the diagnostic and for
each of its labels. A snippet shows the line with some lines above it, and a marker below the
character that is meant:

```text
error[binding]: duplicate declaration of `x`
 --> main:2:5
  │
1 │ var x = 1
2 │ var x = 2
  │     ^
  │
1 │ var x = 1
  │     - first declared here
```

The numbers of all lines are set in a column of one width. The marker stands below its character
because the text before it is measured in columns, not in bytes or characters. A marker can stand
only so far to the right; this is the one way in which drawing fails.
-/

namespace ScriptCheck

open Text

/-- How diagnostics are drawn. -/
structure Config where
  /-- How many lines are shown above the one that is meant. -/
  contextSize : Nat
  errorStyle : Style
  labelStyle : Style
  /-- The style of everything around the source. -/
  subtleStyle : Style
  /-- What stands between the line numbers and the lines. -/
  gutter : String
  /-- What stands before a place. -/
  arrow : String
  /-- The marker of a diagnostic. -/
  underline : String
  /-- The marker of a label. -/
  labelUnderline : String
  deriving DecidableEq, Repr

/-- One line of context, red markers for diagnostics and blue ones for labels. -/
def Config.standard : Config where
  contextSize := 1
  errorStyle := { foreground := some (.named .red), bold := true }
  labelStyle := { foreground := some (.named .blue), bold := true }
  subtleStyle := { dimmed := true, italic := true }
  gutter := "│"
  arrow := "-->"
  underline := "^"
  labelUnderline := "-"

/-- Why a diagnostic cannot be drawn. -/
inductive RenderFault where
  /-- A marker would stand behind so many columns. -/
  | markerTooFar (columns : Nat)
  deriving DecidableEq, Repr

/-- The wording of a fault. -/
def RenderFault.message : RenderFault → String
  | .markerTooFar _ => "Formatting argument out of range"

/-- The greatest number of columns before a marker. -/
def markerLimit : Nat := 65535

/-- So many blanks. -/
def blanks (n : Nat) : String := String.ofList (List.replicate n ' ')

/-- A text at the right end of a column. -/
def alignRight (width : Nat) (s : String) : String := blanks (width - s.length) ++ s

/-- A text with four blanks for each tabulator. -/
def expandTabs (cs : List Char) : List Char :=
  cs.flatMap fun c => if c = '\t' then [' ', ' ', ' ', ' '] else [c]

namespace SourceFile

/-- A byte offset, or the end of the text if the offset is behind it. -/
def clamp (f : SourceFile) (pos : Nat) : Nat := min pos f.size

/-- The line and the column at which a byte offset is reported. -/
def place (f : SourceFile) (pos : Nat) : Nat × Nat := (f.lineColumn? (f.clamp pos)).getD (1, 1)

/-- The text of a line as it is shown. -/
def shownLine (f : SourceFile) (index : Nat) : List Char :=
  expandTabs ((f.lineText? index).getD [])

/-- The text of a line before a byte offset, as it is shown. There is none if the offset lies inside
a character. -/
def shownBefore (f : SourceFile) (index pos : Nat) : List Char :=
  match f.lines[index]? with
  | some line => expandTabs ((takeBytes? line.chars (pos - line.start)).getD [])
  | none => []

end SourceFile

/-- A marker: its style, what is drawn, and the text behind it. -/
structure Marker where
  style : Style
  sign : String
  text : String

/-- Everything that stays the same while one diagnostic is drawn. -/
structure Canvas where
  config : Config
  source : SourceFile
  /-- The width of the column of line numbers. -/
  numberWidth : Nat

namespace Canvas

/-- Text in no style. -/
def plain (s : String) : Span := ⟨none, s⟩

/-- The column of line numbers in one line, with a number or without. -/
def gutter (c : Canvas) (number : String) : Span :=
  ⟨some c.config.subtleStyle, alignRight c.numberWidth number ++ " " ++ c.config.gutter ++ " "⟩

/-- A line of the source. -/
def line (c : Canvas) (index : Nat) : List Span :=
  [c.gutter (toString (index + 1)), plain (String.ofList (c.source.shownLine index) ++ "\n")]

/-- The indices of the lines that are shown for a line. -/
def context (c : Canvas) (index : Nat) : List Nat :=
  let above := index - c.config.contextSize
  List.range' above (index + 1 - above)

/-- A snippet of the source with a marker at a byte offset. -/
def snippet (c : Canvas) (pos : Nat) (marker : Marker) : Except RenderFault (List Span) :=
  let pos := c.source.clamp pos
  let index := (c.source.lineIndex? pos).getD 0
  let columns := columnWidth (c.source.shownBefore index pos)
  if markerLimit < columns then .error (.markerTooFar columns)
  else .ok
    ([c.gutter "", plain "\n"] ++ (c.context index).flatMap c.line ++
      [c.gutter "", ⟨some marker.style, blanks columns ++ marker.sign ++ marker.text⟩, plain "\n"])

end Canvas

/-- The greatest line number that drawing a diagnostic needs. -/
def Diagnostic.lastLine (d : Diagnostic) (source : SourceFile) : Nat :=
  (d.labels.map fun l => (source.place l.pos).1).foldl max (source.place d.pos).1

/-- The kind of a diagnostic and its message. -/
def Diagnostic.header (d : Diagnostic) (config : Config) : List Span :=
  [⟨some config.errorStyle, "error[" ++ d.stage.describe ++ "]:"⟩,
   Canvas.plain (" " ++ d.message ++ "\n")]

/-- The place of a diagnostic: by the name of its source, and by the path if there is one. -/
def Diagnostic.location (d : Diagnostic) (c : Canvas) : Span :=
  let (line, column) := c.source.place d.pos
  let place := ":" ++ toString line ++ ":" ++ toString column
  let path := match c.source.path with
    | some path => " (" ++ path ++ place ++ ")"
    | none => ""
  ⟨some c.config.subtleStyle,
    blanks c.numberWidth ++ c.config.arrow ++ " " ++ c.source.name ++ place ++ path ++ "\n"⟩

/-- Draws a diagnostic. -/
def Diagnostic.render (d : Diagnostic) (source : SourceFile) (config : Config) :
    Except RenderFault (List Span) := do
  let canvas : Canvas := ⟨config, source, (toString (d.lastLine source)).length⟩
  let primary ← canvas.snippet d.pos ⟨config.errorStyle, config.underline, ""⟩
  let secondary ← d.labels.mapM fun l =>
    canvas.snippet l.pos ⟨config.labelStyle, config.labelUnderline, " " ++ l.message⟩
  return d.header config ++ [d.location canvas] ++ primary ++ secondary.flatten ++
    [Canvas.plain "\n"]

end ScriptCheck
