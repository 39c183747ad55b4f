import ScriptCheck.Binding.Bind
import ScriptCheck.Diagnostic
import ScriptCheck.Token.Lexeme
import ScriptCheck.Tree.Parse

/-!
# From a script to a module

A script is split into lexemes, read into statements, and its names are bound. Each stage reports
what it finds and goes on, so every script gives a module.

The diagnostics of the first two stages are reported token by token: first what is wrong inside a
token, then what is wrong with finding it in that place. Clashes of names come last.
-/

namespace ScriptCheck

/-! ## Diagnostics of each stage -/

/-- The diagnostic of a lexical error. -/
def LexError.toDiagnostic (e : LexError) : Diagnostic := ⟨.lexical, e.pos, e.fault.message, []⟩

/-- The diagnostic of a token in a place where it cannot stand. -/
def ParseError.toDiagnostic (e : ParseError) : Diagnostic :=
  ⟨.grammatical, e.pos, e.fault.message, []⟩

/-- The diagnostic of a clash, which also points at the earlier declaration. -/
def BindError.toDiagnostic (e : BindError) : Diagnostic :=
  ⟨.binding, e.pos, e.message, [⟨e.first, "first declared here"⟩]⟩

/-- Goes on with `reportByToken`, the diagnostics reported so far in front, last one first. -/
def reportByTokenFrom (reported : List Diagnostic) :
    List PlacedLexeme → List ParseError → List Diagnostic
  | [], errors => reported.reverse ++ errors.map ParseError.toDiagnostic
  | l :: ls, errors =>
    let reported := (l.errors.map LexError.toDiagnostic).reverse ++ reported
    match errors with
    | e :: es =>
      if e.pos = l.pos then reportByTokenFrom (e.toDiagnostic :: reported) ls es
      else reportByTokenFrom reported ls (e :: es)
    | [] => reportByTokenFrom reported ls []

/-- The diagnostics of the first two stages: lexeme by lexeme its own errors and then the error of
its token, if there is one. An error at the end of the input comes last. -/
def reportByToken (ls : List PlacedLexeme) (errors : List ParseError) : List Diagnostic :=
  reportByTokenFrom [] ls errors

/-! ## Modules -/

/-- A script that has been read: its statements, and the names that they declare once these are
bound. -/
structure Module where
  locals : Table
  statements : Numbered Stmt
  deriving DecidableEq

namespace Module

/-- The statement with a number. -/
def statement? (m : Module) (id : StmtId) : Option Stmt := m.statements.get? id

/-- The declaration that the statement with a number is, if it is one. -/
def declaration? (m : Module) (id : StmtId) : Option Declaration :=
  (m.statement? id).bind Stmt.declaration?

/-- The module with its names bound, and the clashes between its declarations. -/
def bound (m : Module) : Module × List BindError :=
  let names := bind m.statements
  ({ m with locals := names.table }, names.clashes)

end Module

/-- A module whose names are not bound yet, and the diagnostics of the stages so far. -/
structure Parsed where
  module : Module
  diagnostics : List Diagnostic
  deriving DecidableEq

/-- The tokens that statements are read from. -/
def significantTokens (ls : List PlacedLexeme) : List Token :=
  (ls.map PlacedLexeme.token).filter (!·.kind.isTrivia)

/-- Reads a script. -/
def parse (source : String) : Parsed :=
  let ls := scan source
  let reading := readStatements source.utf8ByteSize (significantTokens ls)
  ⟨⟨.empty, .ofList reading.statements⟩, reportByToken ls reading.errors⟩

/-- The outcome of all stages: the module with its names bound, what the first two stages found, and
the clashes. -/
structure Compilation where
  module : Module
  findings : List Diagnostic
  clashes : List BindError
  deriving DecidableEq

namespace Compilation

/-- All diagnostics, in the order of the stages. -/
def diagnostics (c : Compilation) : List Diagnostic :=
  c.findings ++ c.clashes.map BindError.toDiagnostic

/-- Whether nothing is wrong. -/
def isOk (c : Compilation) : Bool := c.diagnostics.isEmpty

end Compilation

/-- Takes a script through all stages. -/
def compile (source : String) : Compilation :=
  let parsed := parse source
  let (module, clashes) := parsed.module.bound
  ⟨module, parsed.diagnostics, clashes⟩

end ScriptCheck
