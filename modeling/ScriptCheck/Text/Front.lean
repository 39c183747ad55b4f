/-!
# Taking characters from the front of a text
-/

namespace ScriptCheck.Text

/-- The first character, if there is one, and the text behind it. -/
def next : List Char → Option Char × List Char
  | [] => (none, [])
  | c :: cs => (some c, cs)

/-- Takes the first character if it is the one that is given. Says whether it was. -/
def eat (c : Char) (cs : List Char) : Bool × List Char :=
  if cs.head? = some c then (true, cs.tail) else (false, cs)

/-- Takes characters as long as they have a property. Says how many did. -/
def eatWhile (p : Char → Bool) (cs : List Char) : Nat × List Char :=
  ((cs.takeWhile p).length, cs.dropWhile p)

end ScriptCheck.Text
