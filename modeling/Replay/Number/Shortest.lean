import Replay.Number.Binary64

/-!
The shortest decimal that reads back as a given floating point number, and the two ways of writing it:
all positions, or one digit before the point and an exponent.
-/

namespace Replay

structure Decimal where
  digits : Nat
  exponent : Int
  deriving DecidableEq, Repr

namespace Decimal

def digitChars (n : Nat) : List Char := Nat.toDigits 10 n

def leadingExponent (num den : Nat) : Int :=
  if den ≤ num then ((digitChars (num / den)).length : Int) - 1
  else
    let places := (digitChars (den / num)).length
    if den ≤ num * tenTo (places - 1) then 1 - (places : Int) else -(places : Int)

structure Interval where
  low : Nat
  high : Nat
  den : Nat
  closed : Bool
  deriving DecidableEq, Repr

def Interval.contains (interval : Interval) (decimal : Decimal) : Bool :=
  let value := decimal.digits * tenTo decimal.exponent.toNat * interval.den
  let unit := tenTo (-decimal.exponent).toNat
  if interval.closed then interval.low * unit ≤ value && value ≤ interval.high * unit
  else interval.low * unit < value && value < interval.high * unit

/-- The numbers that round to `mantissa · 2 ^ exponent`. The gap below a power of two is half as wide
as the gap above it. -/
def roundingInterval (mantissa : Nat) (exponent : Int) : Interval :=
  let scale := twoTo exponent.toNat
  let below := if mantissa = twoTo 52 && exponent != -1074 then 1 else 2
  { low := (4 * mantissa - below) * scale
    high := (4 * mantissa + 2) * scale
    den := 4 * twoTo (-exponent).toNat
    closed := mantissa % 2 == 0 }

/-- Which of two equally near decimals is taken. -/
inductive Tie
  | even
  | up
  deriving DecidableEq, Repr

def Tie.goesUp : Tie → Nat → Bool
  | .even, digits => digits % 2 == 1
  | .up, _ => true

/-- The neighbour of `num / den` in the interval among the multiples of `10 ^ exponent`, the nearer
one of two. -/
def neighbour? (tie : Tie) (interval : Interval) (num den : Nat) (exponent : Int) :
    Option Decimal :=
  let scaledNum := num * tenTo (-exponent).toNat
  let scaledDen := den * tenTo exponent.toNat
  let digits := scaledNum / scaledDen
  let lower : Decimal := ⟨digits, exponent⟩
  let upper : Decimal := ⟨digits + 1, exponent⟩
  let remainder := scaledNum % scaledDen
  let upperNearer := scaledDen < 2 * remainder ||
    (scaledDen == 2 * remainder && tie.goesUp digits)
  match interval.contains lower && digits != 0, interval.contains upper with
  | true, true => some (if upperNearer then upper else lower)
  | true, false => some lower
  | false, true => some upper
  | false, false => none

/-- Tries ever finer decimal grids, from the given count of digits, at most `fuel` of them. -/
def search (tie : Tie) (interval : Interval) (num den : Nat) (leading : Int) (count : Nat) :
    Nat → Decimal
  | 0 => ⟨num / den, 0⟩
  | fuel + 1 =>
    match neighbour? tie interval num den (leading - count + 1) with
    | some decimal => decimal
    | none => search tie interval num den leading (count + 1) fuel

/-- The decimal of fewest digits that rounds to `mantissa · 2 ^ exponent`, and of those the nearest.
Seventeen digits always suffice. -/
def shortest (tie : Tie) (mantissa : Nat) (exponent : Int) : Decimal :=
  if mantissa = 0 then ⟨0, 0⟩
  else
    let parts := Binary64.quotient mantissa exponent
    search tie (roundingInterval mantissa exponent) parts.1 parts.2
      (leadingExponent parts.1 parts.2) 1 17

def stripZeros : List Char → List Char × Nat
  | [] => ([], 0)
  | c :: rest =>
    match stripZeros rest with
    | ([], zeros) => if c = '0' then ([], zeros + 1) else ([c], zeros)
    | (digits, zeros) => (c :: digits, zeros)

def significant (decimal : Decimal) : List Char × Int :=
  let all := digitChars decimal.digits
  let point := (all.length : Int) + decimal.exponent
  match stripZeros all with
  | ([], _) => (['0'], 1)
  | (digits, _) => (digits, point)

def positional (decimal : Decimal) : List Char :=
  let (digits, point) := decimal.significant
  if point ≤ 0 then '0' :: '.' :: List.replicate (-point).toNat '0' ++ digits
  else if (digits.length : Int) ≤ point then
    digits ++ List.replicate (point.toNat - digits.length) '0'
  else digits.take point.toNat ++ '.' :: digits.drop point.toNat

def scientific (decimal : Decimal) : List Char :=
  let (digits, point) := decimal.significant
  let exponent := point - 1
  let fraction := digits.drop 1
  digits.take 1 ++ (if fraction = [] then [] else '.' :: fraction) ++
    'e' :: (if exponent < 0 then '-' else '+') :: digitChars exponent.natAbs

end Decimal

namespace Binary64

/-- All positions written out, with no point in a whole number. Of two equally near decimals it is the
greater magnitude. -/
def positional : Binary64 → List Char
  | .finite negative mantissa exponent =>
    (if negative then ['-'] else []) ++ (Decimal.shortest .up mantissa exponent).positional
  | .infinite negative => (if negative then ['-'] else []) ++ ['i', 'n', 'f']
  | .nan => ['N', 'a', 'N']

end Binary64

end Replay
