import ScriptCheck.Command.Run

/-!
# The command line

Reads the arguments, the environment and at most one file, and writes what the run comes to.
-/

namespace ScriptCheck.Command

/-- The number of a system error, which may be given with a minus sign. -/
def errorNumber (code : UInt32) : Nat := min code.toNat (-code).toNat

/-- Why the system could not read a file. -/
def ReadError.ofSystem (e : IO.Error) : ReadError :=
  match e with
  | .noFileOrDirectory .. => .noSuchFile
  | .inappropriateType _ code _ | .invalidArgument _ code _ =>
    match errorNumber code with
    | 20 => .notDirectory
    | 21 => .isDirectory
    | 36 => .nameTooLong
    | _ => .other (toString e)
  | e => .other (toString e)

/-- The text of the file at a path. -/
def readFile (path : String) : IO (Except ReadError String) := do
  try return decodeText (← IO.FS.readBinFile path)
  catch e => return .error (.ofSystem e)

/-- The text of the file that some arguments ask for, if they ask for one. -/
def readRequested (args : List String) : IO (Except ReadError String) :=
  match Request.ofArguments args with
  | .ok request =>
    match request.path? with
    | some path => readFile path
    | none => return .error .noSuchFile
  | .error _ => return .error .noSuchFile

end ScriptCheck.Command

open ScriptCheck.Command

/-- Runs the program on the arguments of the command line. -/
def main (args : List String) : IO UInt32 := do
  let env : Environment := ⟨← IO.getEnv "TERM", ← IO.getEnv "NO_COLOR"⟩
  let text ← readRequested args
  let result := run args env fun _ => text
  for line in result.log do IO.eprintln line
  IO.eprint result.stderr
  IO.print result.stdout
  return result.code.toUInt32
