import LayeredPage.Number.Binary

/-!
# The fewest digits that read back

Every real strictly between the midpoints to the two neighbouring values rounds to the value itself,
and so do the midpoints if the significand is even. `Binary.shortest` takes the first decimal grid,
from coarse to fine, with a point in that interval, and on it the point nearest to the value.
-/

namespace LayeredPage.Number

/-- `digits * 10 ^ exponent`. -/
structure Decimal where
  digits : Nat
  exponent : Int
deriving Repr, DecidableEq

/-- Which of two equally near decimals is written. -/
inductive Tie where
  | up
  | even
deriving Repr, DecidableEq

namespace Binary

/-- Lower end of the rounding interval, in quarters of the last place. Below a power of two the
neighbour is only half a place away. -/
def lowQuarters (b : Binary) : Nat :=
  if b.significand == hiddenBit && decide (-1074 < b.exponent) then 4 * b.significand - 1
  else 4 * b.significand - 2

/-- Upper end of the rounding interval, in quarters of the last place. -/
def highQuarters (b : Binary) : Nat := 4 * b.significand + 2

/-- Numerator of one quarter of the last place, counted in steps of `10 ^ grid`. -/
def quarterNumerator (b : Binary) (grid : Int) : Nat :=
  Nat.pow 2 (b.exponent - 2).toNat * Nat.pow 10 (-grid).toNat

/-- Denominator of one quarter of the last place, counted in steps of `10 ^ grid`. -/
def quarterDenominator (b : Binary) (grid : Int) : Nat :=
  Nat.pow 2 (2 - b.exponent).toNat * Nat.pow 10 grid.toNat

/-- The point of the grid `10 ^ grid` that stands for `b`, if one lies in its interval. -/
def onGrid? (tie : Tie) (b : Binary) (grid : Int) : Option Decimal :=
  let unit := b.quarterNumerator grid
  let den := b.quarterDenominator grid
  let value := 4 * b.significand * unit
  let floor := value / den
  let closed := b.significand % 2 == 0
  let low := b.lowQuarters * unit
  let high := b.highQuarters * unit
  let lower := low < floor * den || (closed && low == floor * den)
  let upper := (floor + 1) * den < high || (closed && high == (floor + 1) * den)
  match lower, upper with
  | true, false => some ⟨floor, grid⟩
  | false, true => some ⟨floor + 1, grid⟩
  | false, false => none
  | true, true =>
    if 2 * value < (2 * floor + 1) * den then some ⟨floor, grid⟩
    else if (2 * floor + 1) * den < 2 * value then some ⟨floor + 1, grid⟩
    else
      match tie with
      | .up => some ⟨floor + 1, grid⟩
      | .even => some ⟨if floor % 2 == 0 then floor else floor + 1, grid⟩

/-- Whether `10 ^ power` is at most `b`. -/
def reaches (b : Binary) (power : Int) : Bool :=
  b.quarterDenominator power ≤ 4 * b.significand * b.quarterNumerator power

/-- The largest power of ten that is at most `b`. The first guess comes from the length of the
significand and is off by one place at most. -/
def decimalLog (b : Binary) : Int :=
  let guess := Int.fdiv (((b.significand.log2 : Int) + b.exponent) * 30103) 100000
  if b.reaches (guess + 1) then guess + 1
  else if b.reaches guess then guess
  else guess - 1

/-- Seventeen digits always suffice. -/
def shortest (tie : Tie) (b : Binary) : Decimal :=
  let top := b.decimalLog
  let found := (List.range 17).findSome? fun (n : Nat) => b.onGrid? tie (top - n)
  found.getD ⟨4 * b.significand * b.quarterNumerator (top - 16) / b.quarterDenominator (top - 16),
    top - 16⟩

end Binary

end LayeredPage.Number
