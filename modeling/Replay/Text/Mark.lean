import Replay.Text.MarkTable
import Replay.Text.Span

namespace Replay.Text

def markRun? (c : Char) : Option MarkRun :=
  markRuns.find? fun run => run.first ≤ c.toNat && c.toNat ≤ run.last

def isMark (c : Char) : Bool := (markRun? c).isSome

def isAttachedMark (c : Char) : Bool := isMark c && !inSpans spacingMarkSpans c.toNat

/-- Where a mark stands. All other characters have place zero. -/
def markPlace (c : Char) : Nat := ((markRun? c).map (·.place)).getD 0

/-- A mark that takes the vowel from a letter, so that the letter joins the next one. -/
def isVowelKiller (c : Char) : Bool := markPlace c == 9

end Replay.Text
