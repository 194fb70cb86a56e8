import LayeredPage.Number.Literal

/-!
# Scaling in steps

The digits of a literal are collected as long as their number fits 64 bits. That number is rounded
to binary64 and then multiplied or divided by a power of ten, with a rounding at each step. The
result need not be the value nearest to the literal; it is when digits and power are both small.
-/

namespace LayeredPage.Number

/-- Appends digits to a number while it stays below `2 ^ 64`. The digits left over come second. -/
def appendDigits (n : Nat) : List Char → Nat × List Char
  | [] => (n, [])
  | c :: cs =>
    if 10 * n + digitValue c < UInt64.size then appendDigits (10 * n + digitValue c) cs
    else (n, c :: cs)

namespace Magnitude

/-- The quotient that the bits of a finite magnitude stand for. -/
def quotient (bits : Nat) : Nat × Nat :=
  match Reading.ofBits bits with
  | .finite _ b => (b.significand * Nat.pow 2 b.exponent.toNat, Nat.pow 2 (-b.exponent).toNat)
  | _ => (0, 1)

/-- The largest power of ten in the format. -/
def topPower : Nat := 308

/-- Bits of the magnitude nearest to a power of ten up to the largest. -/
def tenTo (power : Nat) : Nat := (nearestBits? (Nat.pow 10 power) 1).getD 0

/-- The product, rounded; `none` if it is too large. -/
def times? (a b : Nat) : Option Nat :=
  let (m, d) := quotient a
  let (n, e) := quotient b
  nearestBits? (m * n) (d * e)

/-- The quotient by a magnitude of at least one, rounded. -/
def dividedBy (a b : Nat) : Nat :=
  let (m, d) := quotient a
  let (n, e) := quotient b
  (nearestBits? (m * e) (d * n)).getD 0

/-- Divides by `10 ^ power`, by the largest power first as often as it goes. -/
def scaleDown (bits power : Nat) : Nat :=
  if power ≤ topPower then dividedBy bits (tenTo power)
  else if dividedBy bits (tenTo topPower) = 0 then 0
  else scaleDown (dividedBy bits (tenTo topPower)) (power - topPower)
termination_by power
decreasing_by
  simp only [topPower] at *
  omega

/-- Multiplies by `10 ^ power`; `none` if the product is too large. -/
def scaleUp? (bits power : Nat) : Option Nat :=
  if bits = 0 then some 0
  else if power ≤ topPower then times? bits (tenTo power)
  else none

end Magnitude

/-- The value of the digits before and after a point times a power of ten; `none` if it is too
large. -/
def ofDigits? (negative : Bool) (whole fraction : List Char) (power : Int) : Option Float :=
  let (n, more) := appendDigits 0 whole
  let (n, rest) := appendDigits n fraction
  let exponent := power + more.length - fraction.length + rest.length
  let bits := (nearestBits? n 1).getD 0
  let scaled? :=
    if 0 ≤ exponent then Magnitude.scaleUp? bits exponent.toNat
    else some (Magnitude.scaleDown bits (-exponent).toNat)
  scaled?.map (ofMagnitude negative)

end LayeredPage.Number
