import Replay.Number.Power

/-!
Decoding bytes as UTF-8. A byte that is part of no character stands for itself, as no character.
-/

namespace Replay.Text

def isContinuation (low high : Nat) (byte : UInt8) : Bool :=
  low ≤ byte.toNat && byte.toNat ≤ high

/-- The bounds of the second byte after a lead byte, and how many bytes follow the lead byte. -/
def leadBounds? (lead : Nat) : Option (Nat × Nat × Nat) :=
  if 0xC2 ≤ lead ∧ lead ≤ 0xDF then some (0x80, 0xBF, 1)
  else if lead = 0xE0 then some (0xA0, 0xBF, 2)
  else if lead = 0xED then some (0x80, 0x9F, 2)
  else if 0xE1 ≤ lead ∧ lead ≤ 0xEF then some (0x80, 0xBF, 2)
  else if lead = 0xF0 then some (0x90, 0xBF, 3)
  else if lead = 0xF4 then some (0x80, 0x8F, 3)
  else if 0xF1 ≤ lead ∧ lead ≤ 0xF3 then some (0x80, 0xBF, 3)
  else none

def joinBits (bits : Nat) (bytes : List UInt8) : Nat :=
  bytes.foldl (fun bits byte => bits * 64 + byte.toNat % 64) bits

/-- The character that a byte begins, and how many more bytes it takes. -/
def decodeFirst? (lead : UInt8) (rest : List UInt8) : Option (Char × Nat) :=
  if lead.toNat < 0x80 then some (Char.ofNat lead.toNat, 0)
  else
    (leadBounds? lead.toNat).bind fun (low, high, count) =>
      let following := rest.take count
      let fits := following.length = count ∧ (following.take 1).all (isContinuation low high) ∧
        following.all (isContinuation 0x80 0xBF)
      if fits then some (Char.ofNat (joinBits (lead.toNat % twoTo (6 - count)) following), count)
      else none

def decode : List UInt8 → List (Option Char)
  | [] => []
  | lead :: rest =>
    match decodeFirst? lead rest with
    | some (c, count) => some c :: decode (rest.drop count)
    | none => none :: decode rest
termination_by bytes => bytes.length
decreasing_by
  · simp only [List.length_drop, List.length_cons]
    omega
  · simp

end Replay.Text
