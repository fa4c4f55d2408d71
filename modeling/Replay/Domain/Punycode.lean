import Replay.Number.Numeral
import Replay.Text.Split

/-!
Punycode: any text in letters, digits and hyphens of ASCII. The characters of ASCII come first; the
others are added in the order of their code points, each by a number that says how far to go through
the places of the text and the code points until it is to be inserted.
-/

namespace Replay.Domain.Punycode

/-! Numbers of variable length -/

def threshold (bias position : Nat) : Nat := min 26 (max 1 (position - bias))

/-- Brings a number down by powers of 35, and counts 36 for each of them. -/
def scaleDown (count number : Nat) : Nat × Nat :=
  if 455 < number then scaleDown (count + 36) (number / 35) else (count, number)
termination_by number
decreasing_by exact Nat.div_lt_self (by omega) (by omega)

def nextBias (number length : Nat) (isFirst : Bool) : Nat :=
  let number := number / (if isFirst then 700 else 2)
  let (count, number) := scaleDown 0 (number + number / length)
  count + 36 * number / (number + 38)

/-- Letters stand for the digits below 26, in either case. -/
def digitValue? (c : Char) : Option Nat :=
  if c.isAlpha then some (c.toLower.toNat - 'a'.toNat)
  else if c.isDigit then some (26 + Numeral.digitValue c)
  else none

def digitChar (value : Nat) : Char :=
  if value < 26 then Char.ofNat ('a'.toNat + value) else Char.ofNat ('0'.toNat + value - 26)

theorem threshold_pos (bias position : Nat) : 0 < threshold bias position := by
  simp only [threshold]
  omega

/-! Reading -/

def word? (n : Nat) : Option Nat := if n < twoTo 32 then some n else none

structure Decoder where
  text : List Char
  /-- The code point, the place in the text, and the bias after the numbers read so far. -/
  code : Nat
  place : Nat
  bias : Nat
  /-- The position of the next digit, what it counts for, and where its number leads so far. -/
  position : Nat
  weight : Nat
  reached : Nat
  deriving DecidableEq, Repr

namespace Decoder

def start (text : List Char) : Decoder := ⟨text, 128, 0, 72, 36, 1, 0⟩

def insert? (decoder : Decoder) (reached : Nat) : Option Decoder :=
  let places := decoder.text.length + 1
  let code := decoder.code + reached / places
  let place := reached % places
  if code.isValidChar then
    some
      { text := decoder.text.take place ++ Char.ofNat code :: decoder.text.drop place
        code := code
        place := place + 1
        bias := nextBias (reached - decoder.place) places (decoder.place = 0)
        position := 36
        weight := 1
        reached := place + 1 }
  else none

def readDigit? (decoder : Decoder) (c : Char) : Option Decoder := do
  let digit ← digitValue? c
  let reached ← word? (decoder.reached + (← word? (digit * decoder.weight)))
  let threshold := threshold decoder.bias decoder.position
  if digit < threshold then decoder.insert? reached
  else
    let weight ← word? (decoder.weight * (36 - threshold))
    return { decoder with position := decoder.position + 36, weight, reached }

end Decoder

/-- The text that a code stands for. The part of it in ASCII comes before the last hyphen. -/
def decode? (code : List Char) : Option (List Char) :=
  let (basic, digits) := match Text.cutAtLast (· == '-') code with
    | some (first :: basic, digits) => (first :: basic, digits)
    | _ => ([], code)
  (digits.foldlM Decoder.readDigit? (.start basic)).bind fun decoder =>
    if decoder.position = 36 then some decoder.text else none

/-! Writing -/

def numberDigits (bias position number : Nat) : List Char :=
  let threshold := threshold bias position
  if number < threshold then [digitChar number]
  else
    let rest := number - threshold
    digitChar (threshold + rest % (36 - threshold)) ::
      numberDigits bias (position + 36) (rest / (36 - threshold))
termination_by number
decreasing_by
  have positive := threshold_pos bias position
  exact Nat.lt_of_le_of_lt (Nat.div_le_self _ _) (by omega)

structure Encoder where
  digits : List Char
  count : Nat
  /-- How far the next character is away from the last one. -/
  distance : Nat
  bias : Nat
  deriving DecidableEq, Repr

namespace Encoder

/-- Goes past a character of the text, or writes it if it has the code point. The first character that
is not in ASCII is written when `basic` are. -/
def visit (basic code : Nat) (encoder : Encoder) (c : Char) : Encoder :=
  if c.toNat < code then { encoder with distance := encoder.distance + 1 }
  else if c.toNat = code then
    let isFirst := encoder.count = basic
    { digits := encoder.digits ++ numberDigits encoder.bias 36 encoder.distance
      count := encoder.count + 1
      distance := 0
      bias := nextBias encoder.distance (encoder.count + 1) isFirst }
  else encoder

def writeAll (text : List Char) (basic next : Nat) (encoder : Encoder) : List Nat → Encoder
  | [] => encoder
  | code :: codes =>
    let distance := encoder.distance + (code - next) * (encoder.count + 1)
    let encoder := text.foldl (visit basic code) { encoder with distance }
    writeAll text basic (code + 1) { encoder with distance := encoder.distance + 1 } codes

end Encoder

def insertOnce (n : Nat) : List Nat → List Nat
  | [] => [n]
  | m :: rest =>
    if n < m then n :: m :: rest else if n = m then m :: rest else m :: insertOnce n rest

def encode (text : List Char) : List Char :=
  let basic := text.filter (·.toNat < 128)
  let others := (text.filter (128 ≤ ·.toNat)).map Char.toNat
  let start : Encoder := ⟨[], basic.length, 0, 72⟩
  let encoder := start.writeAll text basic.length 128 (others.foldr insertOnce [])
  basic ++ (if basic = [] then [] else ['-']) ++ encoder.digits

end Replay.Domain.Punycode
