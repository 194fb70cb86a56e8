import LayeredPage.Json.Value
import LayeredPage.Number.Stepwise

/-!
# Reading JSON

The grammar of RFC 8259 and nothing beside it. Arrays and objects nest at most 127 deep. A whole
number that fits 64 bits, signed or not, stays whole; a number too large for binary64 is an error.
Of two members with one key the last counts. `read?` scales decimal numbers in steps; `readNearest?`
takes the nearest binary64 value.
-/

namespace LayeredPage.Json

def isBlank (c : Char) : Bool := c == ' ' || c == '\t' || c == '\n' || c == '\x0d'

def skipBlanks (cs : List Char) : List Char := cs.dropWhile isBlank

def hexValue? (c : Char) : Option Nat :=
  if c.isDigit then some (c.toNat - 48)
  else if 'a' ≤ c ∧ c ≤ 'f' then some (c.toNat - 87)
  else if 'A' ≤ c ∧ c ≤ 'F' then some (c.toNat - 55)
  else none

/-- Four hexadecimal digits as one number. -/
def unit? (a b c d : Char) : Option Nat := do
  let a ← hexValue? a
  let b ← hexValue? b
  let c ← hexValue? c
  let d ← hexValue? d
  return ((a * 16 + b) * 16 + c) * 16 + d

/-- The character of a one-letter escape. -/
def escape? (c : Char) : Option Char :=
  match c with
  | '\x22' => some '\x22'
  | '\\' => some '\\'
  | '/' => some '/'
  | 'b' => some '\x08'
  | 'f' => some '\x0c'
  | 'n' => some '\n'
  | 'r' => some '\x0d'
  | 't' => some '\t'
  | _ => none

def isHighHalf (n : Nat) : Bool := 0xD800 ≤ n && n < 0xDC00

def isLowHalf (n : Nat) : Bool := 0xDC00 ≤ n && n < 0xE000

/-- The characters of a string and what follows it; the opening quote is already gone. A numbered
escape in the surrogate range needs its other half right behind it. -/
def string? : List Char → Option (List Char × List Char)
  | [] => none
  | '\x22' :: rest => some ([], rest)
  | '\\' :: 'u' :: a :: b :: c :: d :: rest =>
    match unit? a b c d with
    | none => none
    | some n =>
      if isLowHalf n then none
      else if isHighHalf n then
        match rest with
        | '\\' :: 'u' :: a :: b :: c :: d :: rest =>
          match unit? a b c d with
          | some m =>
            if isLowHalf m then
              (string? rest).map fun (s, rest) =>
                (Char.ofNat (0x10000 + (n - 0xD800) * 0x400 + (m - 0xDC00)) :: s, rest)
            else none
          | none => none
        | _ => none
      else (string? rest).map fun (s, rest) => (Char.ofNat n :: s, rest)
  | '\\' :: c :: rest =>
    match escape? c with
    | some e => (string? rest).map fun (s, rest) => (e :: s, rest)
    | none => none
  | c :: rest =>
    if c.toNat < 32 || c == '\\' then none
    else (string? rest).map fun (s, rest) => (c :: s, rest)

/-- How a decimal number becomes a binary64 value. -/
inductive Decimals where
  | nearest
  | stepwise
deriving DecidableEq, Repr

/-- The value of the digits before and after a point times a power of ten. -/
def Decimals.value? (d : Decimals) (negative : Bool) (whole fraction : List Char) (power : Int) :
    Option Float :=
  match d with
  | .nearest =>
    Number.ofDecimal? negative (Number.digitsValue (whole ++ fraction)) (power - fraction.length)
  | .stepwise => Number.ofDigits? negative whole fraction power

/-- A whole number that stays whole. -/
def whole? (negative : Bool) (n : Nat) : Option Int :=
  if negative then if n != 0 && n ≤ 9223372036854775808 then some (-(n : Int)) else none
  else if n < UInt64.size then some n
  else none

/-- Digits after a point; `none` if there is a point and no digit. -/
def fraction? (cs : List Char) : Option (Option (List Char) × List Char) :=
  match cs with
  | '.' :: rest =>
    let digits := rest.takeWhile Char.isDigit
    if digits.isEmpty then none else some (some digits, rest.dropWhile Char.isDigit)
  | cs => some (none, cs)

/-- A signed power of ten; `none` if there is a mark and no digit. -/
def power? (cs : List Char) : Option (Option Int × List Char) :=
  match cs with
  | c :: rest =>
    if c == 'e' || c == 'E' then
      let (negative, rest) := Number.splitSign rest
      let digits := rest.takeWhile Char.isDigit
      if digits.isEmpty then none
      else
        let n : Int := Number.digitsValue digits
        some (some (if negative then -n else n), rest.dropWhile Char.isDigit)
    else some (none, c :: rest)
  | [] => some (none, [])

/-- An unsigned number and what follows it. -/
def number? (d : Decimals) (negative : Bool) (cs : List Char) : Option (Json × List Char) := do
  let digits := cs.takeWhile Char.isDigit
  let rest := cs.dropWhile Char.isDigit
  if digits.isEmpty || (digits.length != 1 && digits.head? == some '0') then none
  else
    let (fraction, rest) ← fraction? rest
    let (power, rest) ← power? rest
    let kept? :=
      if fraction.isNone && power.isNone then whole? negative (Number.digitsValue digits) else none
    match kept? with
    | some n => return (.int n, rest)
    | none =>
      let x ← d.value? negative digits (fraction.getD []) (power.getD 0)
      return (.float x, rest)

/-- Items up to the closing bracket, each read by `item`; the cursor stands before an item. -/
def items? (item : List Char → Option (Json × List Char)) :
    Nat → List Char → Option (List Json × List Char)
  | 0, _ => none
  | fuel + 1, cs =>
    match item cs with
    | none => none
    | some (j, rest) =>
      match skipBlanks rest with
      | ']' :: rest => some ([j], rest)
      | ',' :: rest => (items? item fuel rest).map fun (js, rest) => (j :: js, rest)
      | _ => none

/-- Members up to the closing brace, in order of the text; the cursor stands before a key. -/
def members? (item : List Char → Option (Json × List Char)) :
    Nat → List Char → Option (List (String × Json) × List Char)
  | 0, _ => none
  | fuel + 1, cs =>
    match skipBlanks cs with
    | '\x22' :: rest =>
      match string? rest with
      | none => none
      | some (key, rest) =>
        match skipBlanks rest with
        | ':' :: rest =>
          match item rest with
          | none => none
          | some (j, rest) =>
            match skipBlanks rest with
            | '\x7d' :: rest => some ([(String.ofList key, j)], rest)
            | ',' :: rest =>
              (members? item fuel rest).map fun (ms, rest) => ((String.ofList key, j) :: ms, rest)
            | _ => none
        | _ => none
    | _ => none

/-- The last of several members with one key counts. -/
def lastMembers (members : List (String × Json)) : List (String × Json) :=
  members.foldl (fun ms m => setMember m.1 m.2 ms) []

/-- A value and what follows it; `depth` more levels may open. -/
def value? (d : Decimals) (depth : Nat) (cs : List Char) : Option (Json × List Char) :=
  match skipBlanks cs with
  | 'n' :: 'u' :: 'l' :: 'l' :: rest => some (.null, rest)
  | 't' :: 'r' :: 'u' :: 'e' :: rest => some (.bool true, rest)
  | 'f' :: 'a' :: 'l' :: 's' :: 'e' :: rest => some (.bool false, rest)
  | '\x22' :: rest => (string? rest).map fun (s, rest) => (.string (String.ofList s), rest)
  | '-' :: rest => number? d true rest
  | '[' :: rest =>
    match depth with
    | 0 => none
    | depth + 1 =>
      match skipBlanks rest with
      | ']' :: rest => some (.array [], rest)
      | _ => (items? (value? d depth) rest.length rest).map fun (js, rest) => (.array js, rest)
  | '\x7b' :: rest =>
    match depth with
    | 0 => none
    | depth + 1 =>
      match skipBlanks rest with
      | '\x7d' :: rest => some (.object [], rest)
      | _ =>
        (members? (value? d depth) rest.length rest).map fun (ms, rest) =>
          (.object (lastMembers ms), rest)
  | cs => number? d false cs

/-- Reads a whole text. -/
def readWith? (d : Decimals) (text : String) : Option Json :=
  match value? d 127 text.toList with
  | some (j, rest) => if (skipBlanks rest).isEmpty then some j else none
  | none => none

def read? (text : String) : Option Json := readWith? .stepwise text

def readNearest? (text : String) : Option Json := readWith? .nearest text

/-- Reads UTF-8 bytes. -/
def readBytes? (bytes : ByteArray) : Option Json := (String.fromUTF8? bytes).bind read?

end LayeredPage.Json
