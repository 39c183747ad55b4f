/-!
# Doubles that are natural numbers

A script writes its numbers as plain digits. The double nearest to a natural number is a natural
number again, so the values of a script's numbers are kept as such: exact, and with no sign,
fraction or special value to think of.

* `nearestDouble` — to nearest, ties to even, with as large an exponent as it takes
* `Double.ofNat?` — the same, with the exponents that a double has
-/

namespace ScriptCheck.Decimal

/-- The bits of a double's significand. -/
def significandBits : Nat := 53

/-- A quotient by a power of two, rounded to the nearest natural number. A tie goes to the even
one. -/
def roundShift (n bits : Nat) : Nat :=
  let unit := Nat.pow 2 bits
  let low := n / unit
  let doubled := 2 * (n % unit)
  if doubled < unit then low
  else if unit < doubled then low + 1
  else low + low % 2

/-- The nearest number with no more significant bits than a double has. A tie goes to the one whose
significand is even. -/
def nearestDouble (n : Nat) : Nat :=
  let spare := Nat.log2 n + 1 - significandBits
  roundShift n spare * Nat.pow 2 spare

/-- The double nearest to a natural number, unless it is beyond the greatest double. -/
def Double.ofNat? (n : Nat) : Option Nat :=
  if nearestDouble n < Nat.pow 2 1024 then some (nearestDouble n) else none

/-- The number that a row of decimal digits stands for. -/
def ofDigits (digits : List Char) : Nat :=
  digits.foldl (fun n c => 10 * n + (c.toNat - '0'.toNat)) 0

/-- A number is read back from its digits. -/
theorem ofDigits_toDigits (n : Nat) : ofDigits (Nat.toDigits 10 n) = n :=
  Nat.ofDigitChars_toDigits (by decide) (by decide)

/-- A number that fits the significand is a double as it is. -/
theorem nearestDouble_of_lt {n : Nat} (h : n < Nat.pow 2 significandBits) :
    nearestDouble n = n := by
  have spare : Nat.log2 n + 1 - significandBits = 0 := by
    by_cases h0 : n = 0
    · subst h0; decide
    · have := (Nat.log2_lt h0).2 h
      omega
  simp [nearestDouble, spare, roundShift, Nat.mod_one]

end ScriptCheck.Decimal
