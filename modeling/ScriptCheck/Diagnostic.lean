/-!
# Diagnostics

A diagnostic says what is wrong with a script and where. It is a plain record: no stage of a check
stops at one, and it is for the caller to decide what it means that there are some.
-/

namespace ScriptCheck

/-- The stage of a check that found a problem. -/
inductive Stage where
  | lexical
  | grammatical
  | binding
  deriving DecidableEq, Repr

/-- What a message calls the stage. -/
def Stage.describe : Stage → String
  | .lexical => "lexical"
  | .grammatical => "syntax"
  | .binding => "binding"

/-- The name of a stage in listings. -/
def Stage.label : Stage → String
  | .lexical => "Lexical"
  | .grammatical => "Syntax"
  | .binding => "Binding"

/-- The stage that a message calls so. -/
def Stage.ofDescription? (s : String) : Option Stage :=
  [lexical, grammatical, binding].find? (·.describe == s)

/-- Another place that matters for a diagnostic, and why it does. -/
structure Label where
  pos : Nat
  message : String
  deriving DecidableEq, Repr

/-- A problem: the stage that found it, the byte offset at which it is, and what it is. -/
structure Diagnostic where
  stage : Stage
  pos : Nat
  message : String
  labels : List Label
  deriving DecidableEq, Repr

/-- The diagnostic on one line. -/
def Diagnostic.summary (d : Diagnostic) : String :=
  d.stage.describe ++ " error at " ++ toString d.pos ++ ": " ++ d.message

end ScriptCheck
