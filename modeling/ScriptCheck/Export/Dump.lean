import ScriptCheck.Decimal.Layout
import ScriptCheck.Text.Quoted

/-!
# Dumps

A dump shows the make-up of a value: the names of its types and fields, and its parts in brackets.
It stands on one line or is laid out over several.
-/

namespace ScriptCheck

/-- The make-up of a value. -/
inductive Dump where
  /-- A value without parts. -/
  | atom (text : String)
  /-- A value with named parts. -/
  | record (name : String) (fields : List (String × Dump))
  /-- A value with parts that have no names. -/
  | tuple (name : String) (items : List Dump)
  | list (items : List Dump)
  | map (entries : List (Dump × Dump))

namespace Dump

/-- Doubles are written positionally up to sixteen places, and with a bare power of ten behind
that. -/
def doubleLayout : Decimal.Layout where
  places := 16
  exponentMark := "e"

/-- A number. -/
def nat (n : Nat) : Dump := .atom (toString n)

/-- A double. -/
def double (value : Nat) : Dump := .atom (doubleLayout.render value)

/-- A text. -/
def str (s : String) : Dump := .atom (Text.quoted s)

/-- A character. -/
def char (c : Char) : Dump := .atom (Text.quotedChar c)

/-- A value that may be missing. -/
def option : Option Dump → Dump
  | none => .atom "None"
  | some d => .tuple "Some" [d]

/-- Parts in brackets, one behind the other. -/
def inRow (opening closing : String) (parts : List String) : String :=
  opening ++ ", ".intercalate parts ++ closing

mutual

/-- The dump on one line. -/
def oneLine : Dump → String
  | .atom text => text
  | .record name fields => inRow (name ++ " \x7b ") " \x7d" (oneLineFields fields)
  | .tuple name items => inRow (name ++ "(") ")" (oneLineItems items)
  | .list items => inRow "[" "]" (oneLineItems items)
  | .map entries => inRow "\x7b" "\x7d" (oneLineEntries entries)

/-- Items on one line. -/
def oneLineItems : List Dump → List String
  | [] => []
  | item :: items => oneLine item :: oneLineItems items

/-- Named parts on one line. -/
def oneLineFields : List (String × Dump) → List String
  | [] => []
  | (name, value) :: fields => (name ++ ": " ++ oneLine value) :: oneLineFields fields

/-- Keys and values on one line. -/
def oneLineEntries : List (Dump × Dump) → List String
  | [] => []
  | (key, value) :: entries => (oneLine key ++ ": " ++ oneLine value) :: oneLineEntries entries

end

/-- The beginning of a line at a depth. -/
def indent (depth : Nat) : String := String.ofList (List.replicate (4 * depth) ' ')

/-- Parts in brackets, one on a line and each followed by a comma. -/
def inLines (depth : Nat) (opening closing : String) (parts : List String) : String :=
  if parts.isEmpty then opening ++ closing
  else
    opening ++ "\n" ++ String.join (parts.map fun part => indent (depth + 1) ++ part ++ ",\n") ++
      indent depth ++ closing

mutual

/-- The dump over several lines, of which the first one stands at a depth. -/
def pretty (depth : Nat) : Dump → String
  | .atom text => text
  | .record name fields =>
    inLines depth (name ++ " \x7b") "\x7d" (prettyFields (depth + 1) fields)
  | .tuple name items => inLines depth (name ++ "(") ")" (prettyItems (depth + 1) items)
  | .list items => inLines depth "[" "]" (prettyItems (depth + 1) items)
  | .map entries => inLines depth "\x7b" "\x7d" (prettyEntries (depth + 1) entries)

/-- Items over several lines. -/
def prettyItems (depth : Nat) : List Dump → List String
  | [] => []
  | item :: items => pretty depth item :: prettyItems depth items

/-- Named parts over several lines. -/
def prettyFields (depth : Nat) : List (String × Dump) → List String
  | [] => []
  | (name, value) :: fields =>
    (name ++ ": " ++ pretty depth value) :: prettyFields depth fields

/-- Keys and values over several lines. -/
def prettyEntries (depth : Nat) : List (Dump × Dump) → List String
  | [] => []
  | (key, value) :: entries =>
    (pretty depth key ++ ": " ++ pretty depth value) :: prettyEntries depth entries

end

end Dump

end ScriptCheck
