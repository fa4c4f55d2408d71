import Replay.Domain.MappingTable
import Replay.Text.Composed
import Replay.Text.UnassignedTable

namespace Replay.Domain

open Text

def replacement (code : Nat) : List Nat :=
  ((shifted? replacementRuns code).map ([·]) <|>
    (inBlocks? replacementBlocks code).map ([·]) <|>
    inBlocks? expansionBlocks code).getD [code]

/-- What a character is written as, unless it can stand in no name. -/
def written? (c : Char) : Option (List Char) :=
  let code := c.toNat
  if inSpans barredSpans code || inSpans unassignedSpans code then none
  else if inSpans ignoredSpans code then some []
  else some ((replacement code).map Char.ofNat)

def writtenForm? (name : List Char) : Option (List Char) :=
  (name.mapM written?).map fun parts => composed parts.flatten

def isWritten (name : List Char) : Bool := writtenForm? name == some name

end Replay.Domain
