/-!
# Sets of characters as ranges

A property of characters is kept as a list of closed ranges of code points, ascending and apart.
-/

namespace ScriptCheck.Text

/-- Closed ranges of code points, ascending and apart. -/
abbrev CharRanges := List (Nat × Nat)

/-- Whether some range holds the code point. The ranges ascend, so the search stops at the first
one that starts behind it. -/
def CharRanges.holds : CharRanges → Nat → Bool
  | [], _ => false
  | (first, last) :: more, n => if n < first then false else n ≤ last || CharRanges.holds more n

/-- Whether the character is in the set. -/
def CharRanges.has (ranges : CharRanges) (c : Char) : Bool := ranges.holds c.toNat

end ScriptCheck.Text
