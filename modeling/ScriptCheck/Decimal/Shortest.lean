import ScriptCheck.Decimal.Double

/-!
# The fewest digits that read back

A double is written with the fewest decimal digits from which reading gives the same double again;
of several such numbers, with the nearest one.

The search goes from coarse to fine: on the grid of the multiples of `10 ^ k` only the two
neighbours of the value need to be tried, and the first grid with a hit has the fewest digits. On
the grid of the natural numbers the value itself is a hit.
-/

namespace ScriptCheck.Decimal

/-- The number `digits * 10 ^ exponent`. -/
structure Scaled where
  digits : Nat
  exponent : Nat
  deriving DecidableEq, Repr

/-- Whether reading the number gives the double. -/
def Scaled.readsBack (d : Scaled) (value : Nat) : Bool :=
  nearestDouble (d.digits * Nat.pow 10 d.exponent) == value

/-- The multiple of `10 ^ exponent` that reads back, the nearer one if both neighbours do. -/
def hitOnGrid? (value exponent : Nat) : Option Scaled :=
  let unit := Nat.pow 10 exponent
  let low : Scaled := ⟨value / unit, exponent⟩
  let high : Scaled := ⟨value / unit + 1, exponent⟩
  match low.readsBack value, high.readsBack value with
  | true, true => if 2 * (value % unit) ≤ unit then some low else some high
  | true, false => some low
  | false, true => some high
  | false, false => none

/-- The hit on the coarsest grid that is no coarser than `10 ^ exponent`. -/
def shortestFrom (value : Nat) : Nat → Scaled
  | 0 => ⟨value, 0⟩
  | exponent + 1 =>
    match hitOnGrid? value (exponent + 1) with
    | some d => d
    | none => shortestFrom value exponent

/-- The fewest digits from which the double can be read back. -/
def shortest (value : Nat) : Scaled :=
  if value = 0 then ⟨0, 0⟩ else shortestFrom value (Nat.toDigits 10 value).length

end ScriptCheck.Decimal
