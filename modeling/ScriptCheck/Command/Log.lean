import ScriptCheck.Compilation
import ScriptCheck.Text.Quoted
import ScriptCheck.Tree.Outline

/-!
# Log events

What a run tells of its progress. Each event has a severity, and a run that is asked to log more
tells of less severe events too.
-/

namespace ScriptCheck.Command

/-- How much an event matters. -/
inductive Severity where
  | info
  | debug
  | trace
  deriving DecidableEq, Repr

/-- How often logging must be asked for before events of this severity are told of. -/
def Severity.rank : Severity → Nat
  | .info => 1
  | .debug => 2
  | .trace => 3

/-- The name of a severity, in five columns. -/
def Severity.label : Severity → String
  | .info => " INFO"
  | .debug => "DEBUG"
  | .trace => "TRACE"

/-- Something that happens in a run. -/
inductive Event where
  | reading (path : String)
  | parsed (statements diagnostics : Nat)
  | declared (name : String) (kind : DeclarationKind)
  | assigned (name : String)
  | bound (symbols errors : Nat)
  | compiled (statements symbols diagnostics : Nat)
  | checked (source : String) (diagnostics : Nat)
  deriving DecidableEq, Repr

namespace Event

/-- How much the event matters. -/
def severity : Event → Severity
  | .checked .. => .info
  | .declared .. | .assigned .. => .trace
  | _ => .debug

/-- The part of the program that tells of the event. -/
def origin : Event → String
  | .reading .. => "quill"
  | .parsed .. => "quill_frontend::parser"
  | .declared .. | .assigned .. | .bound .. => "quill_frontend::binder"
  | .compiled .. => "quill_frontend"
  | .checked .. => "quill::check"

/-- The name of a number in an event. -/
def count (name : String) (n : Nat) : String := " " ++ name ++ "=" ++ toString n

/-- What happened. -/
def describe : Event → String
  | .reading path => "reading source path=" ++ path
  | .parsed statements diagnostics =>
    "parsed module" ++ count "statements" statements ++ count "diagnostics" diagnostics
  | .declared name kind => "declare name=" ++ name ++ " kind=" ++ Text.quoted kind.describe
  | .assigned name => "assignment name=" ++ name
  | .bound symbols errors => "bound module" ++ count "symbols" symbols ++ count "errors" errors
  | .compiled statements symbols diagnostics =>
    "compiled module" ++ count "statements" statements ++ count "symbols" symbols ++
      count "diagnostics" diagnostics
  | .checked source diagnostics =>
    "checked source name=" ++ Text.quoted source ++ count "diagnostics" diagnostics

/-- The event on one line. -/
def line (e : Event) : String := e.severity.label ++ " " ++ e.origin ++ ": " ++ e.describe

end Event

/-- The lines of the events that are told of at a verbosity. -/
def logLines (verbosity : Nat) (events : List Event) : List String :=
  (events.filter (·.severity.rank ≤ verbosity)).map Event.line

/-- What binding tells of a statement. Only an expression tells of assignments: those in the
initial value of a variable go unmentioned. -/
def bindingEvents : Stmt → List Event
  | .expression e _ => e.targets.map fun target => .assigned target.text
  | .variable v => [.declared v.name.text .variable]
  | .typeAlias a => [.declared a.name.text .typeAlias]

/-- What the stages of a compilation tell. -/
def compilationEvents (c : Compilation) : List Event :=
  let statements := c.module.statements
  let symbols := c.module.locals.size
  [.parsed statements.size c.findings.length] ++ statements.toList.flatMap bindingEvents ++
    [.bound symbols c.clashes.length,
      .compiled statements.size symbols c.diagnostics.length]

end ScriptCheck.Command
