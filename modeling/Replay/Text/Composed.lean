import Replay.Text.CompositionTable
import Replay.Text.Mark

/-!
The composed form of a text. Letters with marks can be written in several ways; the composed form is
the same for all of them, and uses the fewest characters.
-/

namespace Replay.Text

/-! Syllables of Hangul -/

/-- A syllable is made of one of 19 leads, one of 21 vowels, and perhaps one of 27 tails. -/
def splitSyllable? (code : Nat) : Option (List Nat) :=
  let index := code - 0xAC00
  if 0xAC00 ≤ code ∧ index < 19 * 21 * 28 then
    let tail := index % 28
    some ([0x1100 + index / 28 / 21, 0x1161 + index / 28 % 21] ++
      if tail = 0 then [] else [0x11A7 + tail])
  else none

def joinSyllable? (first second : Nat) : Option Nat :=
  let lead := first - 0x1100
  let vowel := second - 0x1161
  let index := first - 0xAC00
  let tail := second - 0x11A7
  if 0x1100 ≤ first ∧ lead < 19 ∧ 0x1161 ≤ second ∧ vowel < 21 then
    some (0xAC00 + (lead * 21 + vowel) * 28)
  else if 0xAC00 ≤ first ∧ index < 19 * 21 * 28 ∧ index % 28 = 0 ∧ 0x11A7 < second ∧ tail < 28 then
    some (first + tail)
  else none

/-! Taking apart -/

def partsOf (code : Nat) : List Nat :=
  (splitSyllable? code <|> inBlocks? compositeBlocks code <|>
    (inBlocks? singleVariantBlocks code).map ([·]) <|>
    inBlocks? sequenceVariantBlocks code).getD [code]

/-- Puts a mark behind those marks whose place comes first, as far as the next letter. -/
def insertMark (c : Char) : List Char → List Char
  | [] => [c]
  | d :: rest =>
    if markPlace d ≠ 0 ∧ markPlace d < markPlace c then d :: insertMark c rest else c :: d :: rest

def orderMarks : List Char → List Char
  | [] => []
  | c :: rest => insertMark c (orderMarks rest)

def decomposed (text : List Char) : List Char :=
  orderMarks (text.flatMap fun c => (partsOf c.toNat).map Char.ofNat)

/-! Putting together -/

def compositeOf? (sequence : List Nat) : Option Nat :=
  compositeBlocks.findSome? fun block =>
    (block.2.findIdx? (· == sequence)).map (block.1 + ·)

def joined? (first second : Char) : Option Char :=
  (joinSyllable? first.toNat second.toNat <|>
    compositeOf? (partsOf first.toNat ++ [second.toNat])).map Char.ofNat

/-- A mark before the character, whose place is not an earlier one, keeps it from the letter. -/
def isBlocked (kept : List Char) (c : Char) : Bool :=
  kept.head?.any fun last => markPlace c ≤ markPlace last

def joinMarks (letter : Char) (kept : List Char) : List Char → List Char
  | [] => letter :: kept.reverse
  | c :: rest =>
    match if isBlocked kept c then none else joined? letter c with
    | some whole => joinMarks whole kept rest
    | none =>
      if markPlace c = 0 then letter :: kept.reverse ++ joinMarks c [] rest
      else joinMarks letter (c :: kept) rest

def composed (text : List Char) : List Char :=
  match decomposed text with
  | [] => []
  | letter :: rest => joinMarks letter [] rest

@[simp] theorem composed_nil : composed [] = [] := rfl

end Replay.Text
