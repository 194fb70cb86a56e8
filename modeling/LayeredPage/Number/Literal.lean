import LayeredPage.Number.Binary

/-!
# Reading decimal numbers

`Number.parse?` reads the text of a numeric control: an optional sign, digits with at most one point
among or beside them, an optional power of ten, or one of the words for the special values.
-/

namespace LayeredPage.Number

def digitValue (c : Char) : Nat := c.toNat - 48

/-- Value of a run of decimal digits. -/
def digitsValue (digits : List Char) : Nat :=
  digits.foldl (fun value c => 10 * value + digitValue c) 0

/-- Splits a sign off; no sign counts as plus. -/
def splitSign : List Char → Bool × List Char
  | '-' :: rest => (true, rest)
  | '+' :: rest => (false, rest)
  | cs => (false, cs)

/-- Reads a whole number of at most 32 bits: digits, perhaps after a plus sign. -/
def word? (cs : List Char) : Option UInt32 :=
  let digits :=
    match cs with
    | '+' :: rest => rest
    | cs => cs
  if digits.isEmpty || !digits.all Char.isDigit then none
  else if digitsValue digits < UInt32.size then some (UInt32.ofNat (digitsValue digits)) else none

/-- A power of ten after its mark; `some 0` when there is nothing at all. -/
def exponent? : List Char → Option Int
  | [] => some 0
  | c :: rest =>
    if c == 'e' || c == 'E' then
      let (negative, digits) := splitSign rest
      if digits.isEmpty || !digits.all Char.isDigit then none
      else some (if negative then -(digitsValue digits : Int) else digitsValue digits)
    else none

/-- Digits, point and power of ten of an unsigned literal with at least one digit. -/
def decimal? (cs : List Char) : Option (Nat × Int) :=
  let whole := cs.takeWhile Char.isDigit
  let rest := cs.dropWhile Char.isDigit
  let (fraction, rest) :=
    match rest with
    | '.' :: rest => (rest.takeWhile Char.isDigit, rest.dropWhile Char.isDigit)
    | rest => ([], rest)
  if whole.isEmpty && fraction.isEmpty then none
  else (exponent? rest).map fun e => (digitsValue (whole ++ fraction), e - fraction.length)

/-- Reads a number. A magnitude too large for the format reads as infinite. -/
def parse? (text : String) : Option Float :=
  let (negative, cs) := splitSign text.toList
  let word := String.ofList (cs.map Char.toLower)
  if word == "inf" || word == "infinity" then some (infinity negative)
  else if word == "nan" then some (0.0 / 0.0)
  else (decimal? cs).map fun (digits, e) =>
    (ofDecimal? negative digits e).getD (infinity negative)

end LayeredPage.Number
