import LayeredPage.Number.Shortest

/-!
# Numbers as text

A `Layout` fixes how the shortest digits of a number are laid out: where positional notation ends,
whether a whole number keeps its point, which way ties go, and the texts of the special values.
Style values and messages to the core each have one.
-/

namespace LayeredPage.Number

structure Layout where
  tie : Tie
  positional : Int → Bool
  wholePoint : Bool
  notANumber : String
  infinity : String
  minusInfinity : String

namespace Layout

def zeros (n : Nat) : List Char := List.replicate n '0'

/-- The digits of a decimal without trailing zeros, and the number of places before its point. -/
def significant (d : Decimal) : List Char × Int :=
  let all := Nat.toDigits 10 d.digits
  ((all.reverse.dropWhile (· == '0')).reverse, all.length + d.exponent)

/-- Digits with the point after `point` places, zeros filling up on either side. -/
def positionalText (l : Layout) (digits : List Char) (point : Int) : List Char :=
  if point ≤ 0 then '0' :: '.' :: (zeros (-point).toNat ++ digits)
  else if (digits.length : Int) ≤ point then
    digits ++ zeros (point.toNat - digits.length) ++ (if l.wholePoint then ['.', '0'] else [])
  else digits.take point.toNat ++ '.' :: digits.drop point.toNat

/-- One digit, the others after a point if there are any, and a signed power of ten. -/
def scientificText (digits : List Char) (exponent : Int) : List Char :=
  let fraction := if digits.length ≤ 1 then [] else '.' :: digits.drop 1
  let sign := if exponent < 0 then '-' else '+'
  digits.take 1 ++ fraction ++ 'e' :: sign :: Nat.toDigits 10 exponent.natAbs

def magnitudeText (l : Layout) (b : Binary) : List Char :=
  let (digits, point) := significant (b.shortest l.tie)
  if l.positional (point - 1) then l.positionalText digits point
  else scientificText digits (point - 1)

def signed (negative : Bool) (text : List Char) : List Char :=
  if negative then '-' :: text else text

def text (l : Layout) (x : Float) : String :=
  match Reading.ofFloat x with
  | .notANumber => l.notANumber
  | .infinite false => l.infinity
  | .infinite true => l.minusInfinity
  | .zero negative =>
    String.ofList (signed negative (if l.wholePoint then ['0', '.', '0'] else ['0']))
  | .finite negative b => String.ofList (signed negative (l.magnitudeText b))

end Layout

/-- Style values never use an exponent, and whole numbers have no point. -/
def styleLayout : Layout where
  tie := .up
  positional := fun _ => true
  wholePoint := false
  notANumber := "NaN"
  infinity := "inf"
  minusInfinity := "-inf"

/-- Messages write whole numbers with a point, and powers of ten from `1e16` up and from `1e-6`
down. They cannot carry values that are not finite. -/
def messageLayout : Layout where
  tie := .even
  positional := fun exponent => decide (-5 ≤ exponent) && decide (exponent ≤ 15)
  wholePoint := true
  notANumber := "null"
  infinity := "null"
  minusInfinity := "null"

/-- Text of a number in style values. -/
def styleText (x : Float) : String := styleLayout.text x

/-- Text of a number in messages. -/
def messageText (x : Float) : String := messageLayout.text x

end LayeredPage.Number
