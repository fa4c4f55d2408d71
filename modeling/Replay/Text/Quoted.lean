import Replay.Text.HiddenTable
import Replay.Text.Mark
import Replay.Text.UnassignedTable

namespace Replay.Text

def isHidden (c : Char) : Bool :=
  inSpans hiddenSpans c.toNat || isAttachedMark c || inSpans unassignedSpans c.toNat

def quoteChar (c : Char) : List Char :=
  if c.toNat = 0 then ['\\', '0']
  else if c = '\t' then ['\\', 't']
  else if c = '\r' then ['\\', 'r']
  else if c = '\n' then ['\\', 'n']
  else if c = '"' ∨ c = '\\' then ['\\', c]
  else if isHidden c then '\\' :: 'u' :: '{' :: Nat.toDigits 16 c.toNat ++ ['}']
  else [c]

def quoteVisible (text : String) : String :=
  String.ofList ('"' :: text.toList.flatMap quoteChar ++ ['"'])

end Replay.Text
