import ScriptCheck.Decimal.Shortest

/-!
# How a double is laid out

A double is written positionally with one zero behind the point, or, from a certain size on, with
one digit before the point and a power of ten behind a mark.
-/

namespace ScriptCheck.Decimal

/-- The decisions of a format that shows doubles. -/
structure Layout where
  /-- Numbers of more places than this are written with a power of ten. -/
  places : Nat
  /-- What stands between the digits and the power of ten. -/
  exponentMark : String
  deriving DecidableEq, Repr

/-- The digits with a point behind the first one, if there are more. -/
def mantissa : List Char → List Char
  | first :: second :: more => first :: '.' :: second :: more
  | digits => digits

/-- The text of a double. -/
def Layout.render (layout : Layout) (value : Nat) : String :=
  let d := shortest value
  let digits := Nat.toDigits 10 d.digits
  let power := d.exponent + digits.length - 1
  if power < layout.places then
    String.ofList (digits ++ List.replicate d.exponent '0') ++ ".0"
  else
    String.ofList (mantissa digits) ++ layout.exponentMark ++ toString power

end ScriptCheck.Decimal
