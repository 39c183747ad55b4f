import ScriptCheck.Binding.Bind
import ScriptCheck.Binding.Table
import ScriptCheck.Command.Arguments
import ScriptCheck.Command.Check
import ScriptCheck.Command.FileTree
import ScriptCheck.Command.Help
import ScriptCheck.Command.Log
import ScriptCheck.Command.Run
import ScriptCheck.Compilation
import ScriptCheck.Decimal.Double
import ScriptCheck.Decimal.Layout
import ScriptCheck.Decimal.Shortest
import ScriptCheck.Diagnostic
import ScriptCheck.Export.Dump
import ScriptCheck.Export.Json
import ScriptCheck.Export.ToDump
import ScriptCheck.Export.ToJson
import ScriptCheck.Main
import ScriptCheck.Numbered
import ScriptCheck.Report.Render
import ScriptCheck.Report.Style
import ScriptCheck.SourceFile
import ScriptCheck.Text.Blank
import ScriptCheck.Text.Bytes
import ScriptCheck.Text.CharRanges
import ScriptCheck.Text.CharWidth
import ScriptCheck.Text.ColumnWidth
import ScriptCheck.Text.Emoji
import ScriptCheck.Text.Front
import ScriptCheck.Text.Graphic
import ScriptCheck.Text.GraphemeExtend
import ScriptCheck.Text.Ligature
import ScriptCheck.Text.Quoted
import ScriptCheck.Text.Visible
import ScriptCheck.Token
import ScriptCheck.Token.Cursor
import ScriptCheck.Token.Lexeme
import ScriptCheck.Tree
import ScriptCheck.Tree.Outline
import ScriptCheck.Tree.Parse
import ScriptCheck.Proofs.Token.Munch
import ScriptCheck.Proofs.Token.Tokenization
import ScriptCheck.Proofs.Tree.Grammar
import ScriptCheck.Proofs.Report
import ScriptCheck.Proofs.Tree.Reading
import ScriptCheck.Proofs.Tree.Script
import ScriptCheck.Proofs.Tree.Segment
import ScriptCheck.Proofs.Tree.Relocate
import ScriptCheck.Proofs.Concat
import ScriptCheck.Proofs.Binding.Scope
import ScriptCheck.Proofs.Binding.Grouping
import ScriptCheck.Proofs.Binding.Lookup
import ScriptCheck.Proofs.Binding.Clashes
import ScriptCheck.Proofs.Token.Walk
import ScriptCheck.Proofs.Walk.Reader
import ScriptCheck.Proofs.Walk.Agreement
import ScriptCheck.Proofs.Diagnostics
import ScriptCheck.Proofs.Owner
import ScriptCheck.Proofs.SourceOrder
import ScriptCheck.Proofs.Tree.Anchors
import ScriptCheck.Proofs.Binding.Relocate
import ScriptCheck.Proofs.Spelling
import ScriptCheck.Proofs.Binding.Occurrences
import ScriptCheck.Proofs.OnLine
import ScriptCheck.Proofs.SourceFile
import ScriptCheck.Proofs.Report.Drawing
import ScriptCheck.Proofs.LineEnds
import ScriptCheck.Proofs.Token.Calls
import ScriptCheck.Proofs.Token.Literal
import ScriptCheck.Proofs.Report.Markers
import ScriptCheck.Proofs.Report.Rows
import ScriptCheck.Proofs.Report.Strokes
import ScriptCheck.Proofs.Report.Gutters
import ScriptCheck.Proofs.Report.Terminal
import ScriptCheck.Proofs.Report.Decoration
import ScriptCheck.Proofs.Command.Check
import ScriptCheck.Proofs.Surroundings
import ScriptCheck.Proofs.SourceFile.Offsets
import ScriptCheck.Proofs.SourceFile.Slices
import ScriptCheck.Proofs.Binding.Listing
import ScriptCheck.Proofs.Command.Listing
import ScriptCheck.Proofs.Walk.Termination
import ScriptCheck.Proofs.Walk.Recursion
