namespace Replay.Text

def inSpans (spans : List (Nat × Nat)) (code : Nat) : Bool :=
  spans.any fun span => span.1 ≤ code && code ≤ span.2

/-- Code points `first`, `first + step`, …, `last`, each with its counterpart `delta` away. -/
structure ShiftRun where
  first : Nat
  last : Nat
  step : Nat
  delta : Int
  deriving DecidableEq, Repr

def ShiftRun.covers (run : ShiftRun) (code : Nat) : Bool :=
  run.first ≤ code && code ≤ run.last && (code - run.first) % run.step == 0

def shifted? (runs : List ShiftRun) (code : Nat) : Option Nat :=
  (runs.find? (·.covers code)).map fun run => ((code : Int) + run.delta).toNat

/-- The entry of a code point in blocks, each of which lists the entries of consecutive code points
from its first one on. -/
def inBlocks? {α : Type} (blocks : List (Nat × List α)) (code : Nat) : Option α :=
  blocks.findSome? fun block => if block.1 ≤ code then block.2[code - block.1]? else none

end Replay.Text
