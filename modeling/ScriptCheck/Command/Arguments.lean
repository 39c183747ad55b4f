import ScriptCheck.Text.Visible

/-!
# Arguments

The arguments of a run say which script to check and how. They are read from left to right, and the
reading ends early when an argument asks for a help text or cannot be understood.

The value of a setting is looked at late: when the next known option comes, when the input is named,
or at the end. A fault that is plain from an argument alone is therefore reported before a bad value
that stands in front of it.
-/

namespace ScriptCheck.Command

/-! ## What can be asked for -/

/-- An intermediate result that can be printed. -/
inductive Emission where
  /-- The tokens, one on a line. -/
  | tokens
  /-- The whole module. -/
  | module
  /-- The symbol table. -/
  | table
  deriving DecidableEq, Repr

/-- The emission with that name. -/
def Emission.ofName? : String → Option Emission
  | "tokens" => some .tokens
  | "ast" => some .module
  | "symbols" => some .table
  | _ => none

/-- When diagnostics are coloured. -/
inductive Coloring where
  /-- If the environment is that of a terminal with colours. -/
  | auto
  | always
  | never
  deriving DecidableEq, Repr

/-- The coloring with that name. -/
def Coloring.ofName? : String → Option Coloring
  | "auto" => some .auto
  | "always" => some .always
  | "never" => some .never
  | _ => none

/-- A request to check a script. -/
structure Request where
  /-- The path of the script, or the script itself. -/
  input : String
  /-- Whether the input is the script itself. -/
  isLiteral : Bool
  emission : Option Emission
  coloring : Coloring
  /-- How much is logged. -/
  verbosity : Nat
  deriving DecidableEq, Repr

/-- A help text. -/
inductive HelpTopic where
  | program
  /-- The command that checks a script, in brief or at length. -/
  | check (long : Bool)
  /-- The command that shows a help text. -/
  | help
  deriving DecidableEq, Repr

/-! ## Options -/

/-- An option without a value. -/
inductive Switch where
  /-- The input is the script itself. -/
  | isLiteral
  /-- Log more. -/
  | verbose
  | help
  | version
  deriving DecidableEq, Repr

/-- The long name of a switch. -/
def Switch.name : Switch → String
  | .isLiteral => "source"
  | .verbose => "verbose"
  | .help => "help"
  | .version => "version"

/-- The short name of a switch. -/
def Switch.letter : Switch → Char
  | .isLiteral => 's'
  | .verbose => 'v'
  | .help => 'h'
  | .version => 'V'

/-- What a message calls a switch. Dots stand behind the one that can be repeated. -/
def Switch.describe : Switch → String
  | .verbose => "--verbose..."
  | switch => "--" ++ switch.name

/-- An option with a value. -/
inductive Setting where
  | emission
  | coloring
  deriving DecidableEq, Repr

/-- The long name of a setting. There is no short one. -/
def Setting.name : Setting → String
  | .emission => "emit"
  | .coloring => "color"

/-- What a message calls a setting. -/
def Setting.describe : Setting → String
  | .emission => "--emit <EMIT>"
  | .coloring => "--color <COLOR>"

/-- Options stand in front of the command or behind it. -/
inductive Level where
  | program
  | check
  deriving DecidableEq, Repr

/-- The switches of a level. -/
def Level.switches : Level → List Switch
  | .program => [.verbose, .help, .version]
  | .check => [.isLiteral, .verbose, .help]

/-- The settings of a level. -/
def Level.settings : Level → List Setting
  | .program => []
  | .check => [.emission, .coloring]

/-! ## Faults -/

/-- What is wrong with the arguments. -/
inductive UsageError where
  /-- There are none. -/
  | nothing
  | commandMissing
  | commandUnknown (name : String)
  | inputMissing
  | unexpected (argument : String)
  /-- A switch with a value. -/
  | unexpectedValue (value : String) (switch : Switch)
  | valueMissing (setting : Setting)
  | valueInvalid (value : String) (setting : Setting)
  /-- An option that may stand only once, as a message calls it. -/
  | repeated (option : String)
  deriving DecidableEq, Repr

/-- An argument as a message cites it. What would be an instruction to the terminal is left out. -/
def cited (argument : String) : String := "'" ++ Text.visible argument ++ "'"

/-- The wording of a fault. -/
def UsageError.message : UsageError → String
  | .nothing => "Usage: quill [OPTIONS] <COMMAND>"
  | .commandMissing => "error: 'quill' requires a subcommand but one was not provided"
  | .commandUnknown name => "error: unrecognized subcommand " ++ cited name
  | .inputMissing => "error: the following required arguments were not provided:\n  <INPUT>"
  | .unexpected argument => "error: unexpected argument " ++ cited argument ++ " found"
  | .unexpectedValue value switch =>
    "error: unexpected value " ++ cited value ++ " for '" ++ switch.describe ++
      "' found; no more were expected"
  | .valueMissing setting =>
    "error: a value is required for '" ++ setting.describe ++ "' but none was supplied"
  | .valueInvalid value setting =>
    "error: invalid value " ++ cited value ++ " for '" ++ setting.describe ++ "'"
  | .repeated option => "error: the argument '" ++ option ++ "' cannot be used multiple times"

/-- Why reading the arguments ends without a request. -/
inductive Interruption where
  | help (topic : HelpTopic)
  | version
  | usage (error : UsageError)
  deriving DecidableEq, Repr

/-! ## The form of an argument -/

/-- An argument by its form. -/
inductive Argument where
  /-- A long option, and what stands behind its equals sign if there is one. -/
  | long (name : String) (value : Option String)
  /-- Short options, one letter each. -/
  | short (letters : List Char)
  /-- Two hyphens: nothing behind them is an option. -/
  | separator
  /-- Anything else; a hyphen alone is plain. -/
  | plain (text : String)
  deriving DecidableEq, Repr

/-- The form of an argument. -/
def Argument.ofString (s : String) : Argument :=
  match s.toList with
  | ['-', '-'] => .separator
  | '-' :: '-' :: cs =>
    let value := match cs.dropWhile (· != '=') with
      | _ :: value => some (String.ofList value)
      | [] => none
    .long (String.ofList (cs.takeWhile (· != '='))) value
  | '-' :: c :: cs => .short (c :: cs)
  | _ => .plain s

/-! ## Reading -/

/-- What the arguments have said so far. -/
structure Draft where
  level : Level
  /-- How often logging was asked for in front of the command. -/
  outerVerbosity : Nat
  /-- How often it was asked for on the current level. -/
  verbosity : Nat
  input : Option String
  isLiteral : Bool
  emission : Option Emission
  coloring : Option Coloring
  /-- A setting whose value has not been looked at, and the value if it has come. -/
  pending : Option (Setting × Option String)
  deriving DecidableEq, Repr

namespace Draft

/-- Nothing has been read. -/
def empty : Draft := ⟨.program, 0, 0, none, false, none, none, none⟩

/-- Ends the reading with a fault. -/
def fail {α : Type} (e : UsageError) : Except Interruption α := .error (.usage e)

/-- The first value of an option. The name is what a message calls the option. -/
def once {α : Type} (name : String) (old : Option α) (new : Except Interruption α) :
    Except Interruption (Option α) :=
  match old with
  | some _ => fail (.repeated name)
  | none => new.map some

/-- What a setting makes of a text. An empty text counts as no value. -/
def valueOf {α : Type} (setting : Setting) (ofName? : String → Option α) (text : String) :
    Except Interruption α :=
  match ofName? text with
  | some a => .ok a
  | none => fail (if text.isEmpty then .valueMissing setting else .valueInvalid text setting)

/-- Takes the value of a setting. -/
def assign (draft : Draft) (setting : Setting) (text : String) : Except Interruption Draft :=
  match setting with
  | .emission => do
    let emission ← once setting.describe draft.emission (valueOf setting Emission.ofName? text)
    return { draft with emission := emission }
  | .coloring => do
    let coloring ← once setting.describe draft.coloring (valueOf setting Coloring.ofName? text)
    return { draft with coloring := coloring }

/-- Looks at the value of the setting that waits, if there is one. -/
def settle (draft : Draft) : Except Interruption Draft :=
  match draft.pending with
  | none => .ok draft
  | some (setting, none) => fail (.valueMissing setting)
  | some (setting, some text) => { draft with pending := none }.assign setting text

/-- Puts a switch on. The help text that it may ask for is at length after a long name. -/
def press (draft : Draft) (switch : Switch) (long : Bool) : Except Interruption Draft := do
  let draft ← draft.settle
  match switch with
  | .isLiteral =>
    if draft.isLiteral then fail (.repeated switch.describe)
    else return { draft with isLiteral := true }
  | .verbose => return { draft with verbosity := draft.verbosity + 1 }
  | .version => .error .version
  | .help =>
    match draft.level with
    | .program => .error (.help .program)
    | .check => .error (.help (.check long))

/-- Reads a short option. -/
def readLetter (draft : Draft) (c : Char) : Except Interruption Draft :=
  match draft.level.switches.find? (·.letter == c) with
  | some switch => draft.press switch false
  | none => fail (.unexpected (String.ofList ['-', c]))

/-- Reads a long option. -/
def readLong (draft : Draft) (name : String) (value : Option String) :
    Except Interruption Draft :=
  match draft.level.switches.find? (·.name == name),
      draft.level.settings.find? (·.name == name) with
  | some switch, _ =>
    match value with
    | some text => fail (.unexpectedValue text switch)
    | none => draft.press switch true
  | none, some setting => do
    let draft ← draft.settle
    match value with
    | some text => draft.assign setting text
    | none => return { draft with pending := some (setting, none) }
  | none, none => fail (.unexpected ("--" ++ name))

/-- Takes the input. -/
def takeInput (draft : Draft) (text : String) : Except Interruption Draft :=
  match draft.input with
  | some _ => fail (.unexpected text)
  | none => do return { ← draft.settle with input := some text }

/-- Reads an argument of a check that is not an option: the value for which a setting waits, or the
input. -/
def readPlain (draft : Draft) (text : String) : Except Interruption Draft :=
  match draft.pending with
  | some (setting, none) => .ok { draft with pending := some (setting, some text) }
  | _ => draft.takeInput text

/-- The command that checks a script has been named. -/
def enterCheck (draft : Draft) : Draft :=
  { draft with level := .check, outerVerbosity := draft.verbosity, verbosity := 0 }

/-- The request, when all has been read. Asking for logging behind the command takes the place of
asking for it in front. -/
def finish (draft : Draft) : Except Interruption Request :=
  match draft.level with
  | .program => fail (if draft.verbosity = 0 then .nothing else .commandMissing)
  | .check => do
    let draft ← draft.settle
    match draft.input with
    | none => fail .inputMissing
    | some input =>
      return {
        input := input
        isLiteral := draft.isLiteral
        emission := draft.emission
        coloring := draft.coloring.getD .auto
        verbosity := if draft.verbosity = 0 then draft.outerVerbosity else draft.verbosity }

/-- Reads the arguments behind two hyphens, none of which is an option. A command cannot be named
there. -/
def readPlains (draft : Draft) (args : List String) : Except Interruption Request :=
  match draft.level, args with
  | .program, name :: _ =>
    fail (if name = "check" ∨ name = "help" then .unexpected name else .commandUnknown name)
  | .program, [] => draft.finish
  | .check, args => do (← args.foldlM takeInput draft).finish

/-- The help text of a command. No command has commands of its own. -/
def helpFor : List String → Interruption
  | [] => .help .program
  | ["check"] => .help (.check true)
  | ["help"] => .help .help
  | name :: inner =>
    .usage (.commandUnknown (if name = "check" ∨ name = "help" then inner.headD name else name))

/-- Reads arguments. -/
def read (draft : Draft) : List String → Except Interruption Request
  | [] => draft.finish
  | arg :: args =>
    match Argument.ofString arg with
    | .separator => draft.readPlains args
    | .long name value => do (← draft.readLong name value).read args
    | .short letters => do (← letters.foldlM readLetter draft).read args
    | .plain text =>
      match draft.level with
      | .check => do (← draft.readPlain text).read args
      | .program =>
        if text = "check" then draft.enterCheck.read args
        else if text = "help" then .error (helpFor args)
        else fail (.commandUnknown text)

end Draft

/-- Reads the arguments of a run. -/
def Request.ofArguments (args : List String) : Except Interruption Request := Draft.empty.read args

end ScriptCheck.Command
