import ScriptCheck.Decimal.Layout

/-!
# JSON values

A JSON value and its text, laid out over several lines. Fields keep the order in which they are
given.
-/

namespace ScriptCheck

/-- A JSON value. Of numbers there are natural numbers and doubles, which are told apart by how they
are written. -/
inductive Json where
  | null
  | bool (b : Bool)
  | nat (n : Nat)
  | double (value : Nat)
  | str (s : String)
  | arr (items : List Json)
  | obj (fields : List (String × Json))

namespace Json

/-- Doubles are written positionally up to sixteen places, and with a signed power of ten behind
that. -/
def doubleLayout : Decimal.Layout where
  places := 16
  exponentMark := "e+"

/-- A character as it stands in a JSON text: quotes, backslashes and control characters are
escaped. -/
def escaped (c : Char) : List Char :=
  match c with
  | '"' => ['\\', '"']
  | '\\' => ['\\', '\\']
  | '\n' => ['\\', 'n']
  | '\r' => ['\\', 'r']
  | '\t' => ['\\', 't']
  | '\x08' => ['\\', 'b']
  | '\x0c' => ['\\', 'f']
  | c =>
    if c.toNat < 0x20 then
      ['\\', 'u', '0', '0', Nat.digitChar (c.toNat / 16), Nat.digitChar (c.toNat % 16)]
    else [c]

/-- A text as a JSON string. -/
def quoted (s : String) : String := String.ofList ('"' :: s.toList.flatMap escaped ++ ['"'])

/-- The beginning of a line at a depth. -/
def indent (depth : Nat) : String := String.ofList (List.replicate (2 * depth) ' ')

/-- Parts in brackets, one on a line. -/
def bracketed (depth : Nat) (opening closing : String) (parts : List String) : String :=
  if parts.isEmpty then opening ++ closing
  else
    opening ++ "\n" ++ ",\n".intercalate (parts.map (indent (depth + 1) ++ ·)) ++ "\n" ++
      indent depth ++ closing

mutual

/-- The text of a value whose first line stands at a depth. -/
def pretty (depth : Nat) : Json → String
  | .null => "null"
  | .bool b => if b then "true" else "false"
  | .nat n => toString n
  | .double value => doubleLayout.render value
  | .str s => quoted s
  | .arr items => bracketed depth "[" "]" (prettyItems (depth + 1) items)
  | .obj fields => bracketed depth "\x7b" "\x7d" (prettyFields (depth + 1) fields)

/-- The texts of items. -/
def prettyItems (depth : Nat) : List Json → List String
  | [] => []
  | item :: items => pretty depth item :: prettyItems depth items

/-- The texts of fields. -/
def prettyFields (depth : Nat) : List (String × Json) → List String
  | [] => []
  | (name, value) :: fields =>
    (quoted name ++ ": " ++ pretty depth value) :: prettyFields depth fields

end

end Json

end ScriptCheck
