import ScriptCheck.Command.Arguments
import ScriptCheck.Compilation
import ScriptCheck.Export.ToJson
import ScriptCheck.Report.Render
import ScriptCheck.SourceFile
import ScriptCheck.Text.Quoted

/-!
# Checking sources

A checker compiles sources one after the other. It hands every diagnostic on to a sink, and it keeps
count of them. What a check prints is printed whether or not there are diagnostics; only when a sink
breaks off is there nothing to print.
-/

namespace ScriptCheck.Command

/-! ## Sinks -/

/-- What becomes of diagnostics: each one is added to what is there, which can fail. -/
abbrev Sink (σ : Type) := SourceFile → σ → Diagnostic → Except RenderFault σ

/-- Keeps the diagnostics, in order. -/
def Sink.collect : Sink (List Diagnostic) := fun _ found d => .ok (found ++ [d])

/-- Draws the diagnostics, one below the other. -/
def Sink.draw (config : Config) (color : Bool) : Sink String := fun source drawn d =>
  (d.render source config).map fun spans => drawn ++ writeSpans color spans

/-- Adds diagnostics up to the first one that fails. -/
def Sink.addAll {σ : Type} (sink : Sink σ) (source : SourceFile) (state : σ) :
    List Diagnostic → σ × Option RenderFault
  | [] => (state, none)
  | d :: ds =>
    match sink source state d with
    | .ok state => sink.addAll source state ds
    | .error fault => (state, some fault)

/-! ## Emissions -/

/-- A token on a line of its own. -/
def listToken (t : Token) : String :=
  toString t.pos ++ " " ++ t.kind.label ++ " " ++ Text.quoted t.text ++ "\n"

/-- What an emission prints of a source and its module. -/
def Emission.print (emission : Emission) (source : SourceFile) (module : Module) : String :=
  match emission with
  | .tokens => String.join ((ScriptCheck.tokens source.text).map listToken)
  | .module => module.toJson.pretty 0 ++ "\n"
  | .table => module.locals.toJson.pretty 0 ++ "\n"

/-! ## Checkers -/

/-- What has become of the diagnostics so far, and how many there were. -/
structure Checker (σ : Type) where
  emitted : σ
  count : Nat
  deriving DecidableEq, Repr

/-- How a check ends. -/
inductive Verdict where
  /-- There have been no diagnostics so far. -/
  | clean
  /-- There have been so many. -/
  | faulty (count : Nat)
  /-- The sink failed. -/
  | broken (fault : RenderFault)
  deriving DecidableEq, Repr

/-- What a check comes to: the checker for the next one, what is printed, and how it ends. -/
structure Checked (σ : Type) where
  checker : Checker σ
  printed : String
  verdict : Verdict
  deriving DecidableEq, Repr

namespace Checker

variable {σ : Type}

/-- The verdict on all sources so far. -/
def verdict (checker : Checker σ) : Verdict :=
  match checker.count with
  | 0 => .clean
  | n => .faulty n

/-- Checks a source that has been compiled. -/
def checkCompiled (checker : Checker σ) (sink : Sink σ) (source : SourceFile) (c : Compilation)
    (emission : Option Emission) : Checked σ :=
  let (emitted, fault?) := sink.addAll source checker.emitted c.diagnostics
  let checker : Checker σ := ⟨emitted, checker.count + c.diagnostics.length⟩
  match fault? with
  | some fault => ⟨checker, "", .broken fault⟩
  | none =>
    ⟨checker, ((emission.map (·.print source c.module)).getD ""), checker.verdict⟩

/-- Checks a source. -/
def check (checker : Checker σ) (sink : Sink σ) (source : SourceFile)
    (emission : Option Emission) : Checked σ :=
  checker.checkCompiled sink source (compile source.text) emission

end Checker

end ScriptCheck.Command
