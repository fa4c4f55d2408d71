import Replay.Domain.Direction
import Replay.Domain.Joining
import Replay.Domain.Mapping
import Replay.Domain.Punycode

/-!
Domain names: labels between points, in any script. In ASCII, a label of another script is written in
Punycode behind a mark.
-/

namespace Replay.Domain

def isAscii (text : List Char) : Bool := text.all (·.toNat < 128)

def codeMark : List Char := ['x', 'n', '-', '-']

/-- The label that Punycode stands for has to need it, and to be in its written form. -/
def decodeLabel? (code : List Char) : Option (List Char) :=
  if code = [] ∨ code.getLast? = some '-' ∨ 2000 < code.length then none
  else (Punycode.decode? code).filter isWritten

def readLabel? (label : List Char) : Option (List Char) :=
  if codeMark.isPrefixOf label then decodeLabel? (label.drop codeMark.length) else some label

/-- A label does not begin with a mark, its joiners fit, and it is not too long to be written. -/
def isLabel (label : List Char) : Bool :=
  !label.head?.any Text.isMark && joinersFit [] label && (isAscii label || label.length ≤ 1000)

def asciiLabel (label : List Char) : List Char :=
  if isAscii label then label else codeMark ++ Punycode.encode label

def labels? (name : List Char) : Option (List (List Char)) :=
  (writtenForm? name).bind fun written =>
    ((Text.pieces (· == '.') written).mapM readLabel?).filter fun labels =>
      labels.all isLabel && directionsAgree labels

def ascii? (name : List Char) : Option (List Char) :=
  (labels? name).map fun labels => List.intercalate ['.'] (labels.map asciiLabel)

end Replay.Domain
