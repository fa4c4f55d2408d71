import Replay.Domain.DirectionTable
import Replay.Text.Mark

namespace Replay.Domain

open Text

inductive Direction
  | leftToRight
  | rightToLeft
  | europeanDigit
  | arabicDigit
  /-- That of the character before it. -/
  | attached
  /-- That of the surroundings. -/
  | neutral
  deriving DecidableEq, Repr

def direction (c : Char) : Direction :=
  let code := c.toNat
  if leftToRightMarks.contains code then .leftToRight
  else if isAttachedMark c then .attached
  else if inSpans rightToLeftSpans code then .rightToLeft
  else if inSpans arabicDigitSpans code then .arabicDigit
  else if inSpans europeanDigitSpans code then .europeanDigit
  else if inSpans neutralSpans code then .neutral
  else .leftToRight

def trimAttached (directions : List Direction) : List Direction :=
  (directions.reverse.dropWhile (· == .attached)).reverse

/-- A label keeps to the direction of its first letter. It ends in a letter or a digit of that
direction, and those from right to left have digits of one kind only. -/
def keepsDirection (label : List Char) : Bool :=
  let directions := label.map direction
  let last := (trimAttached directions).getLast?
  match directions.head? with
  | none => true
  | some .leftToRight =>
    directions.all (fun d => d != .rightToLeft && d != .arabicDigit) &&
      last.any (fun d => d == .leftToRight || d == .europeanDigit)
  | some .rightToLeft =>
    directions.all (· != .leftToRight) && last.any (fun d => d != .neutral) &&
      !(directions.contains .europeanDigit && directions.contains .arabicDigit)
  | _ => false

def hasRightToLeft (label : List Char) : Bool :=
  label.any fun c => direction c == .rightToLeft || direction c == .arabicDigit

def directionsAgree (labels : List (List Char)) : Bool :=
  !labels.any hasRightToLeft || labels.all keepsDirection

end Replay.Domain
