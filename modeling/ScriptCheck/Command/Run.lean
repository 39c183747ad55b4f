import ScriptCheck.Command.Check
import ScriptCheck.Command.FileTree
import ScriptCheck.Command.Help
import ScriptCheck.Command.Log

/-!
# A run of the program

What a run prints, logs and returns, given its arguments, its environment and the files that it can
read.
-/

namespace ScriptCheck.Command

/-- The variables of the environment that matter. -/
structure Environment where
  /-- The kind of the terminal. -/
  term : Option String
  /-- Whether colours are unwanted; any value says that they are. -/
  noColor : Option String
  deriving DecidableEq, Repr

/-- Whether diagnostics are coloured. -/
def Coloring.applies (coloring : Coloring) (env : Environment) : Bool :=
  match coloring with
  | .always => true
  | .never => false
  | .auto => env.noColor.isNone && env.term.any (· != "dumb")

/-- What a run comes to: its exit code, what it prints, and the lines that it logs. -/
structure RunResult where
  code : Nat
  stdout : String
  stderr : String
  log : List String
  deriving DecidableEq, Repr

/-- How the program returns. -/
inductive ExitCode where
  | success
  | failure
  | usage
  | abort
  deriving DecidableEq, Repr

/-- The number of an exit code. -/
def ExitCode.toNat : ExitCode → Nat
  | .success => 0
  | .failure => 1
  | .usage => 2
  | .abort => 101

/-- The name of a source that is no file. -/
def literalName : String := "<unnamed>"

namespace Request

/-- The path of the file that is to be read. -/
def path? (request : Request) : Option String :=
  if request.isLiteral then none else some request.input

/-- The source that is to be checked. -/
def source (request : Request) (readText : String → Except ReadError String) :
    Except ReadError SourceFile :=
  match request.path? with
  | none => .ok (.ofText literalName request.input none)
  | some path => (readText path).map fun text => .ofText path text (some path)

/-- What is told before the source is there. -/
def openingEvents (request : Request) : List Event := request.path?.toList.map Event.reading

/-- The exit code of a check and the last line that it writes. -/
def ending : Verdict → ExitCode × String
  | .clean => (.success, "")
  | .faulty count =>
    (.failure, "compilation failed with " ++ toString count ++ " error(s)\n")
  | .broken fault => (.abort, fault.message ++ "\n")

/-- Checks a source. -/
def checkSource (request : Request) (env : Environment) (source : SourceFile) : RunResult :=
  let c := compile source.text
  let sink := Sink.draw .standard (request.coloring.applies env)
  let checked := (Checker.mk "" 0).checkCompiled sink source c request.emission
  let (code, lastLine) := ending checked.verdict
  let events := request.openingEvents ++ compilationEvents c ++
    [.checked source.name c.diagnostics.length]
  ⟨code.toNat, checked.printed, checked.checker.emitted ++ lastLine,
    logLines request.verbosity events⟩

/-- Does what is requested. -/
def run (request : Request) (env : Environment)
    (readText : String → Except ReadError String) : RunResult :=
  match request.source readText with
  | .ok source => request.checkSource env source
  | .error reason =>
    ⟨ExitCode.failure.toNat, "", reason.message ++ "\n",
      logLines request.verbosity request.openingEvents⟩

end Request

/-- Answers arguments that are no request. -/
def Interruption.answer : Interruption → RunResult
  | .help topic => ⟨ExitCode.success.toNat, topic.text, "", []⟩
  | .version => ⟨ExitCode.success.toNat, versionText, "", []⟩
  | .usage error => ⟨ExitCode.usage.toNat, "", error.message ++ "\n", []⟩

/-- Runs the program. -/
def run (args : List String) (env : Environment) (readText : String → Except ReadError String) :
    RunResult :=
  match Request.ofArguments args with
  | .ok request => request.run env readText
  | .error interruption => interruption.answer

end ScriptCheck.Command
