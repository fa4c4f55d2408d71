import Replay.Number.Binary64

namespace Replay

inductive DurationError
  | negative
  | tooBigOrNan
  deriving DecidableEq, Repr

def DurationError.message : DurationError → String
  | negative => "cannot convert float seconds to Duration: value is negative"
  | tooBigOrNan => "cannot convert float seconds to Duration: value is either too big or NaN"

namespace Duration

/-- The nanoseconds nearest to a number of seconds, a tie to the even one. The seconds must lie below
`2 ^ 64`; a negative zero counts as zero. -/
def ofSeconds : Binary64 → Except DurationError Nat
  | .nan => .error .tooBigOrNan
  | .infinite negative => .error (if negative then .negative else .tooBigOrNan)
  | .finite negative mantissa exponent =>
    if negative && mantissa != 0 then .error .negative
    else
      let (num, den) := Binary64.quotient mantissa exponent
      if twoTo 64 * den ≤ num then .error .tooBigOrNan
      else .ok (roundHalfEven (num * 1000000000) den)

def ofMillis (millis : Nat) : Nat := millis * 1000000

def toMillis (nanos : Nat) : Nat := nanos / 1000000

end Duration

end Replay
