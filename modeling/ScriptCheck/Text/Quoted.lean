import ScriptCheck.Text.Graphic

/-!
# Quoted text

A quoted form shows a text between two quotes on one line, in characters that have a form of their
own. A backslash introduces an escape: a letter for the characters that have one, and the code
point in hexadecimal for whatever else cannot be shown.
-/

namespace ScriptCheck.Text

/-- The letter that stands for a character after a backslash. -/
def escapeLetter? : Char → Option Char
  | '\x00' => some '0'
  | '\t' => some 't'
  | '\r' => some 'r'
  | '\n' => some 'n'
  | '\\' => some '\\'
  | _ => none

/-- A character by its code point: lower-case hexadecimal digits in braces. -/
def codeEscape (c : Char) : List Char :=
  ['\\', 'u', '\x7b'] ++ Nat.toDigits 16 c.toNat ++ ['\x7d']

/-- A character as it stands between two quotes. -/
def escaped (quote c : Char) : List Char :=
  match escapeLetter? c with
  | some letter => ['\\', letter]
  | none =>
    if c == quote then ['\\', c]
    else if isGraphic c then [c]
    else codeEscape c

/-- The characters between two quotes. -/
def quotedChars (quote : Char) (cs : List Char) : List Char :=
  quote :: cs.flatMap (escaped quote) ++ [quote]

/-- A text in double quotes. -/
def quoted (s : String) : String := String.ofList (quotedChars '"' s.toList)

/-- A character in single quotes. -/
def quotedChar (c : Char) : String := String.ofList (quotedChars '\'' [c])

end ScriptCheck.Text
