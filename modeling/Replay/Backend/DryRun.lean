import Replay.Backend
import Replay.Duration

/-!
A backend that touches nothing and reports what it would do. Each locator matches one element, or
none, as the backend is told.
-/

namespace Replay

structure Report where
  message : String
  fields : List (String × String)
  deriving DecidableEq, Repr

structure DryRun where
  assumePresent : Bool
  reports : List Report
  deriving DecidableEq, Repr

namespace DryRun

/-- Control characters, quotes, backslashes and all beyond ASCII are escaped. -/
def escapeChar (c : Char) : List Char :=
  if c = '\t' then ['\\', 't']
  else if c = '\r' then ['\\', 'r']
  else if c = '\n' then ['\\', 'n']
  else if c = '\'' ∨ c = '"' ∨ c = '\\' then ['\\', c]
  else if 0x20 ≤ c.toNat ∧ c.toNat ≤ 0x7E then [c]
  else '\\' :: 'u' :: '{' :: Nat.toDigits 16 c.toNat ++ ['}']

def escape (text : String) : String := String.ofList (text.toList.flatMap escapeChar)

def start (assumePresent : Bool) : DryRun := ⟨assumePresent, []⟩

def report (run : DryRun) (message : String) (fields : List (String × String)) : DryRun :=
  { run with reports := run.reports ++ [⟨"DRY-RUN " ++ message, fields⟩] }

def backend : Backend DryRun where
  name := "dry_run"
  navigate url run := (.ok (), run.report "navigate" [("url", url)])
  click locator run := (.ok (), run.report "click" [("locator", locator)])
  clear locator run := (.ok (), run.report "clear" [("locator", locator)])
  sendKeys locator text run :=
    (.ok (), run.report "send_keys" [("locator", locator), ("text", escape text)])
  refresh run := (.ok (), run.report "refresh" [])
  find locator run :=
    (.ok (if run.assumePresent then [⟨locator⟩] else []),
      run.report "find_all"
        [("locator", locator), ("present", if run.assumePresent then "true" else "false")])
  textOf element run :=
    (.ok s!"[text of {element.id}]", run.report "text_content_of" [("element", element.id)])
  pause nanos run :=
    run.report "pause" [("ms", (Duration.toMillis nanos % twoTo 64).repr)]

end DryRun

end Replay
