import ScriptCheck.Text.Bytes

/-!
# Source files

A source text with a table of its lines, which turns byte offsets into lines and columns. For this
table only a line feed ends a line. Lines and columns count from one, line indices from zero.
-/

namespace ScriptCheck

/-- A line: the byte offset of its start, and its characters up to the line feed. -/
structure Line where
  start : Nat
  chars : List Char
  deriving DecidableEq, Repr

namespace Line

/-- Goes on with `ofText`: the lines so far, last one first, the byte offset of the current line,
the byte offset reached, and the characters of the current line, last one first. -/
def splitFrom (lines : List Line) (start pos : Nat) (read : List Char) : List Char → List Line
  | [] => (⟨start, read.reverse⟩ :: lines).reverse
  | c :: cs =>
    if c = '\n' then splitFrom (⟨start, read.reverse⟩ :: lines) (pos + 1) (pos + 1) [] cs
    else splitFrom lines start (pos + c.utf8Size) (c :: read) cs

/-- The lines of a text. There is one more of them than there are line feeds. -/
def ofText (text : String) : Array Line := (splitFrom [] 0 0 [] text.toList).toArray

/-- The characters of the line without a carriage return at its end. -/
def shown (l : Line) : List Char :=
  if l.chars.getLast? = some '\r' then l.chars.dropLast else l.chars

end Line

/-- A source text with its name, the path it was read from, and its lines. -/
structure SourceFile where
  name : String
  path : Option String
  text : String
  lines : Array Line
  lines_eq : lines = Line.ofText text

namespace SourceFile

/-- A source text with its name and path. -/
def ofText (name text : String) (path : Option String) : SourceFile :=
  ⟨name, path, text, Line.ofText text, rfl⟩

/-- The bytes of the text. -/
def size (f : SourceFile) : Nat := f.text.utf8ByteSize

/-- How many lines there are. -/
def numLines (f : SourceFile) : Nat := f.lines.size

/-- The byte offsets of the line feeds. -/
def lineBreaks (f : SourceFile) : List Nat := (f.lines.toList.drop 1).map (·.start - 1)

/-- The index of the line that a byte offset is in. The offset just behind the text is valid, since
that is where the end of the input is reported. -/
def lineIndex? (f : SourceFile) (byte : Nat) : Option Nat :=
  if f.size < byte then none else some (f.lines.countP (·.start ≤ byte) - 1)

/-- The byte offset at which a line starts. -/
def lineStart? (f : SourceFile) (index : Nat) : Option Nat := f.lines[index]?.map Line.start

/-- The line and the column of a byte offset. -/
def lineColumn? (f : SourceFile) (byte : Nat) : Option (Nat × Nat) := do
  let index ← f.lineIndex? byte
  let start ← f.lineStart? index
  return (index + 1, byte - start + 1)

/-- The text of a line without its end. -/
def lineText? (f : SourceFile) (index : Nat) : Option (List Char) := f.lines[index]?.map Line.shown

end SourceFile

end ScriptCheck
