import Replay.Number.Binary64

namespace Replay.Numeral

def digitValue (c : Char) : Nat := c.toNat - '0'.toNat

/-- The value of digits read after `value`. -/
def digitsValue (value : Nat) (digits : List Char) : Nat :=
  digits.foldl (fun value c => value * 10 + digitValue c) value

def hexValue? (c : Char) : Option Nat :=
  if c.isDigit then some (digitValue c)
  else if 'a' ≤ c ∧ c ≤ 'f' then some (c.toNat - 'a'.toNat + 10)
  else if 'A' ≤ c ∧ c ≤ 'F' then some (c.toNat - 'A'.toNat + 10)
  else none

def readInBase? (base : Nat) (digits : List Char) : Option Nat :=
  digits.foldlM (fun value c => (hexValue? c).bind fun digit =>
    if digit < base then some (value * base + digit) else none) 0

def readDigits? (text : List Char) : Option Nat :=
  if text ≠ [] && text.all Char.isDigit then some (digitsValue 0 text) else none

/-- A natural number below `2 ^ 64`, with an optional plus sign. -/
def readWord? (text : List Char) : Option Nat :=
  let digits := match text with
    | '+' :: rest => rest
    | _ => text
  (readDigits? digits).bind fun n => if n < twoTo 64 then some n else none

def readInt32? (text : List Char) : Option Int :=
  let value := match text with
    | '+' :: rest => (readDigits? rest).map Int.ofNat
    | '-' :: rest => (readDigits? rest).map fun n => -(n : Int)
    | _ => (readDigits? text).map Int.ofNat
  value.bind fun n => if -(twoTo 31 : Int) ≤ n ∧ n < twoTo 31 then some n else none

def readExponent? (text : List Char) : Option Int :=
  match text with
  | '+' :: rest => (readDigits? rest).map Int.ofNat
  | '-' :: rest => (readDigits? rest).map fun n => -(n : Int)
  | _ => (readDigits? text).map Int.ofNat

/-- A numeral without sign: digits with an optional point on either side of them or between, and an
optional exponent. -/
def readDecimal? (negative : Bool) (text : List Char) : Option Binary64 :=
  let whole := text.takeWhile Char.isDigit
  let rest := text.dropWhile Char.isDigit
  let (fraction, rest) := match rest with
    | '.' :: rest => (rest.takeWhile Char.isDigit, rest.dropWhile Char.isDigit)
    | _ => ([], rest)
  if whole = [] ∧ fraction = [] then none
  else
    let exponent? := match rest with
      | [] => some 0
      | c :: rest => if c = 'e' ∨ c = 'E' then readExponent? rest else none
    exponent?.map fun exponent =>
      Binary64.ofDecimal negative (digitsValue 0 (whole ++ fraction)) (exponent - fraction.length)

def readMagnitude? (negative : Bool) (text : List Char) : Option Binary64 :=
  match String.ofList (text.map Char.toLower) with
  | "inf" | "infinity" => some (.infinite negative)
  | "nan" => some .nan
  | _ => readDecimal? negative text

def readBinary64? : List Char → Option Binary64
  | '+' :: rest => readMagnitude? false rest
  | '-' :: rest => readMagnitude? true rest
  | text => readMagnitude? false text

end Replay.Numeral
