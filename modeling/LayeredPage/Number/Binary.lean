/-!
# Binary64 values as integers times powers of two

A finite nonzero magnitude is `significand * 2 ^ exponent`. `nearestBits?` goes the other way: it
rounds a quotient of naturals to the nearest representable magnitude, half to even.
-/

namespace LayeredPage.Number

/-- Weight of the sign bit, `2 ^ 63`. -/
def signBit : Nat := 9223372036854775808

/-- Weight of the hidden bit of a significand, `2 ^ 52`. -/
def hiddenBit : Nat := 4503599627370496

/-- A positive finite magnitude, `significand * 2 ^ exponent`. -/
structure Binary where
  significand : Nat
  exponent : Int
deriving Repr, DecidableEq

/-- What a bit pattern stands for; the flag is the sign. -/
inductive Reading where
  | notANumber
  | infinite (negative : Bool)
  | zero (negative : Bool)
  | finite (negative : Bool) (magnitude : Binary)
deriving Repr, DecidableEq

namespace Reading

/-- Sign, eleven exponent bits and fifty-two fraction bits; the leading bit is hidden unless the
exponent bits are zero. -/
def ofBits (bits : Nat) : Reading :=
  let negative := bits / signBit % 2 == 1
  let biased : Nat := bits / hiddenBit % 2048
  let fraction : Nat := bits % hiddenBit
  if biased == 2047 then
    if fraction == 0 then .infinite negative else .notANumber
  else if biased == 0 then
    if fraction == 0 then .zero negative else .finite negative ⟨fraction, -1074⟩
  else
    .finite negative ⟨hiddenBit + fraction, (biased : Int) - 1075⟩

def ofFloat (x : Float) : Reading := ofBits x.toBits.toNat

end Reading

/-- The quotient rounded to the nearest integer, a half to the even neighbour. -/
def roundHalfEven (numerator denominator : Nat) : Nat :=
  let whole := numerator / denominator
  let twice := 2 * (numerator % denominator)
  if twice < denominator then whole
  else if denominator < twice then whole + 1
  else if whole % 2 == 0 then whole else whole + 1

/-- Largest `k` with `2 ^ k ≤ numerator / denominator`, for positive arguments. -/
def binaryLog (numerator denominator : Nat) : Int :=
  let guess := (numerator.log2 : Int) - denominator.log2
  let reached :=
    if 0 ≤ guess then denominator * Nat.pow 2 guess.toNat ≤ numerator
    else denominator ≤ numerator * Nat.pow 2 (-guess).toNat
  if reached then guess else guess - 1

/-- Bits of the magnitude nearest to `numerator / denominator`; `none` if that magnitude is too
large for the format. A carry out of the significand moves into the exponent by itself. -/
def nearestBits? (numerator denominator : Nat) : Option Nat :=
  if numerator == 0 then some 0
  else
    let exponent := max (binaryLog numerator denominator - 52) (-1074)
    let significand :=
      if 0 ≤ exponent then roundHalfEven numerator (denominator * Nat.pow 2 exponent.toNat)
      else roundHalfEven (numerator * Nat.pow 2 (-exponent).toNat) denominator
    let bits := (exponent + 1074).toNat * hiddenBit + significand
    if bits < 2047 * hiddenBit then some bits else none

/-- The binary64 value with this sign and these magnitude bits. -/
def ofMagnitude (negative : Bool) (bits : Nat) : Float :=
  Float.ofBits (UInt64.ofNat (if negative then signBit + bits else bits))

def infinity (negative : Bool) : Float := ofMagnitude negative (2047 * hiddenBit)

/-- The binary64 value nearest to `digits * 10 ^ exponent`, or `none` beyond the largest one. Far
outside the format's range the power of ten is not computed. -/
def ofDecimal? (negative : Bool) (digits : Nat) (exponent : Int) : Option Float :=
  let places : Int := (Nat.toDigits 10 digits).length + exponent
  if digits == 0 || places < -400 then some (ofMagnitude negative 0)
  else if 400 < places then none
  else
    let bits? :=
      if 0 ≤ exponent then nearestBits? (digits * Nat.pow 10 exponent.toNat) 1
      else nearestBits? digits (Nat.pow 10 (-exponent).toNat)
    bits?.map (ofMagnitude negative)

end LayeredPage.Number
