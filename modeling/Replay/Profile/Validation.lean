import Replay.Json.Value
import Replay.Profile
import Replay.Text.Blank
import Replay.Text.Lowercase

namespace Replay

inductive FieldFault
  | tooShort
  | tooSmall (least : String)
  | tooLarge (most : String)
  deriving DecidableEq, Repr

def FieldFault.message : FieldFault → String
  | tooShort => "The length of the value must be `>= 1`."
  | tooSmall least => s!"The number must be `>= {least}`."
  | tooLarge most => s!"The number must be `<= {most}`."

inductive FaultTree
  | field (faults : List FieldFault)
  | structureOf (fields : List (String × FaultTree))
  deriving Repr

mutual

def FaultTree.isFault : FaultTree → Bool
  | .field faults => !faults.isEmpty
  | .structureOf fields => anyFault fields

def anyFault : List (String × FaultTree) → Bool
  | [] => false
  | (_, tree) :: rest => tree.isFault || anyFault rest

end

mutual

def FaultTree.report : FaultTree → Json.Value
  | .field faults =>
    .object [("errors", .list (faults.map fun fault => .text fault.message))]
  | .structureOf fields => .object [("errors", .list []), ("properties", .object (reports fields))]

def reports : List (String × FaultTree) → List (String × Json.Value)
  | [] => []
  | (name, tree) :: rest =>
    if tree.isFault then (name, tree.report) :: reports rest else reports rest

end

inductive ProfileFault
  | profile (faults : FaultTree)
  | webDriver (faults : FaultTree)
  | emptyRun (index : Nat)
  | repeatedRun (run : String)
  deriving Repr

def ProfileFault.message : ProfileFault → String
  | profile faults => s!"Invalid profile: {faults.report.compact}"
  | webDriver faults => s!"Invalid webdriver settings: {faults.report.compact}"
  | emptyRun index => s!"Run {index} has an empty action list key"
  | repeatedRun run => s!"Run '{run}' is listed more than once"

namespace Profile

def nonEmpty (value : String) : FaultTree := .field (if value = "" then [.tooShort] else [])

def maxLoopDelayMillis : Nat := 60000

def profileFaults (profile : Profile) : FaultTree :=
  let delay := if maxLoopDelayMillis < profile.run.loopDelayMillis
    then [FieldFault.tooLarge (toString maxLoopDelayMillis)] else []
  .structureOf [
    ("store", nonEmpty profile.store),
    ("default_actions_section", nonEmpty profile.actionsSection),
    ("interpreter", .structureOf [("loop_delay_ms", .field delay)])]

def webDriverFaults (settings : BrowserSettings) : FaultTree :=
  let wait := if settings.implicitWaitSecs.lessThanNat 0 then [FieldFault.tooSmall "0.0"]
    else if settings.implicitWaitSecs.greaterThanNat 300 then [.tooLarge "300.0"] else []
  let timeout := if settings.requestTimeoutSecs < 1 then [FieldFault.tooSmall "1"]
    else if 3600 < settings.requestTimeoutSecs then [.tooLarge "3600"] else []
  .structureOf [
    ("endpoint", nonEmpty settings.endpoint),
    ("implicit_wait_secs", .field wait),
    ("request_timeout_secs", .field timeout)]

def lowercaseKey (run : String) : String := String.ofList (Text.lowercase run.toList)

/-- Checks the runs from the one with the given index on, given the earlier ones in lower case. -/
def checkRuns (seen : List String) (index : Nat) : List String → Except ProfileFault Unit
  | [] => .ok ()
  | run :: rest =>
    if Text.trim run.toList = [] then .error (.emptyRun index)
    else if lowercaseKey run ∈ seen then .error (.repeatedRun run)
    else checkRuns (lowercaseKey run :: seen) (index + 1) rest

def check (profile : Profile) : Except ProfileFault Unit := do
  if profile.profileFaults.isFault then throw (.profile profile.profileFaults)
  if let .webDriver settings := profile.backend then
    if (webDriverFaults settings).isFault then throw (.webDriver (webDriverFaults settings))
  checkRuns [] 0 profile.runs

end Profile

end Replay
