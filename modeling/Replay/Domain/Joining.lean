import Replay.Domain.JoiningTable
import Replay.Text.Mark

/-!
Joiners: invisible characters that change how the letters around them are joined. They may stand only
where they make a difference.
-/

namespace Replay.Domain

open Text

def nonJoiner : Char := Char.ofNat 0x200C
def joiner : Char := Char.ofNat 0x200D

def joinsNext (c : Char) : Bool :=
  inSpans dualJoiningSpans c.toNat || inSpans forwardJoiningSpans c.toNat

def joinsPrevious (c : Char) : Bool :=
  inSpans dualJoiningSpans c.toNat || inSpans backwardJoiningSpans c.toNat

def isTransparent (c : Char) : Bool := isAttachedMark c || c.toNat == 0x1E94B

def meetsJoining (joins : Char → Bool) : List Char → Bool
  | [] => false
  | c :: rest => joins c || (isTransparent c && meetsJoining joins rest)

/-- A joiner follows a mark that takes a vowel away. One that parts letters may also stand between two
that would join. What comes before it is in reverse order. -/
def joinerFits (before : List Char) (c : Char) (after : List Char) : Bool :=
  before.head?.any isVowelKiller ||
    (c == nonJoiner && meetsJoining joinsNext before && meetsJoining joinsPrevious after)

def joinersFit (before : List Char) : List Char → Bool
  | [] => true
  | c :: rest =>
    ((c != nonJoiner && c != joiner) || joinerFits before c rest) && joinersFit (c :: before) rest

end Replay.Domain
