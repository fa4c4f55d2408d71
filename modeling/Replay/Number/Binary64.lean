import Replay.Number.Power

/-!
Binary floating point numbers of 64 bits, as exact values: a signed mantissa times a power of two.
Every operation rounds the exact result to the nearest such number, a tie to the even mantissa.
-/

namespace Replay

/-- The quotient rounded to the nearest natural number, a tie to the even one. -/
def roundHalfEven (num den : Nat) : Nat :=
  let quotient := num / den
  let twice := 2 * (num % den)
  if twice < den then quotient
  else if den < twice then quotient + 1
  else quotient + quotient % 2

/-- The quotient rounded to the nearest natural number, a tie upwards. -/
def roundHalfUp (num den : Nat) : Nat := (2 * num + den) / (2 * den)

/-- A finite number is `± mantissa · 2 ^ exponent`, with a mantissa below `2 ^ 53`, which is at least
`2 ^ 52` unless the exponent is the least one, `-1074`. -/
inductive Binary64
  | finite (negative : Bool) (mantissa : Nat) (exponent : Int)
  | infinite (negative : Bool)
  | nan
  deriving DecidableEq, Repr

namespace Binary64

def zero (negative : Bool) : Binary64 := .finite negative 0 (-1074)

instance : Inhabited Binary64 := ⟨zero false⟩

def quotient (mantissa : Nat) (exponent : Int) : Nat × Nat :=
  (mantissa * twoTo exponent.toNat, twoTo (-exponent).toNat)

/-- The exponent at which the quotient has a mantissa of 53 bits, or the least exponent. -/
def exponentFor (num den : Nat) : Int :=
  let low : Int := (Nat.log2 num : Int) - Nat.log2 den - 53
  let wide := den * twoTo (53 + low).toNat ≤ num * twoTo (-(53 + low)).toNat
  max (if wide then low + 1 else low) (-1074)

def ofRatio (negative : Bool) (num den : Nat) : Binary64 :=
  if num = 0 then zero negative
  else
    let exponent := exponentFor num den
    let mantissa := roundHalfEven (num * twoTo (-exponent).toNat) (den * twoTo exponent.toNat)
    let carried := mantissa = twoTo 53
    let mantissa := if carried then twoTo 52 else mantissa
    let exponent := if carried then exponent + 1 else exponent
    if 971 < exponent then .infinite negative else .finite negative mantissa exponent

def ofNat (n : Nat) : Binary64 := ofRatio false n 1

def ofInt (n : Int) : Binary64 := ofRatio (n < 0) n.natAbs 1

/-- The number nearest to `± digits · 10 ^ exponent`. Exponents far out of range are settled by the
number of digits alone. -/
def ofDecimal (negative : Bool) (digits : Nat) (exponent : Int) : Binary64 :=
  if digits = 0 then zero negative
  else
    let magnitude : Int := (Nat.log2 digits : Int) / 4 + exponent
    if 400 < magnitude then .infinite negative
    else if (Nat.log2 digits : Int) + exponent < -400 then zero negative
    else ofRatio negative (digits * tenTo exponent.toNat) (tenTo (-exponent).toNat)

def isZero : Binary64 → Bool
  | .finite _ mantissa _ => mantissa == 0
  | _ => false

def negate : Binary64 → Binary64
  | .finite negative mantissa exponent => .finite (!negative) mantissa exponent
  | .infinite negative => .infinite (!negative)
  | .nan => .nan

def mul : Binary64 → Binary64 → Binary64
  | .finite n m e, .finite n' m' e' =>
    let parts := quotient (m * m') (e + e')
    ofRatio (n != n') parts.1 parts.2
  | .finite n m _, .infinite n' => if m = 0 then .nan else .infinite (n != n')
  | .infinite n, .finite n' m' _ => if m' = 0 then .nan else .infinite (n != n')
  | .infinite n, .infinite n' => .infinite (n != n')
  | _, _ => .nan

/-- The quotient of two finite numbers, the second one not zero. -/
def div : Binary64 → Binary64 → Binary64
  | .finite n m e, .finite n' m' e' =>
    if m' = 0 then .nan
    else
      let parts := quotient m (e - e')
      ofRatio (n != n') parts.1 (parts.2 * m')
  | _, _ => .nan

def lessThanNat (x : Binary64) (bound : Nat) : Bool :=
  match x with
  | .finite negative mantissa exponent =>
    let parts := quotient mantissa exponent
    if negative then mantissa ≠ 0 || bound ≠ 0 else parts.1 < bound * parts.2
  | .infinite negative => negative
  | .nan => false

def greaterThanNat (x : Binary64) (bound : Nat) : Bool :=
  match x with
  | .finite negative mantissa exponent =>
    let parts := quotient mantissa exponent
    !negative && bound * parts.2 < parts.1
  | .infinite negative => !negative
  | .nan => false

/-- The nearest natural number below `2 ^ 64`, a tie upwards; what lies outside goes to the nearer
end of that range and `nan` to zero. -/
def toWord (x : Binary64) : Nat :=
  match x with
  | .finite negative mantissa exponent =>
    let parts := quotient mantissa exponent
    if negative then 0 else min (roundHalfUp parts.1 parts.2) (twoTo 64 - 1)
  | .infinite negative => if negative then 0 else twoTo 64 - 1
  | .nan => 0

end Binary64

end Replay
