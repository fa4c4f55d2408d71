import Replay.Execution.Settings
import Replay.Number.Binary64

namespace Replay

inductive LocatorStrategy
  | xpath
  | css
  deriving DecidableEq, Repr

namespace LocatorStrategy

def name : LocatorStrategy → String
  | xpath => "xpath"
  | css => "css"

def wireName : LocatorStrategy → String
  | xpath => "xpath"
  | css => "css selector"

end LocatorStrategy

structure BrowserSettings where
  endpoint : String := "http://localhost:9515"
  browserName : String := "chrome"
  headless : Bool := true
  userDataDirectory : Option String := none
  profileDirectory : Option String := none
  implicitWaitSecs : Binary64 := .ofNat 4
  requestTimeoutSecs : Nat := 120
  locatorStrategy : LocatorStrategy := .xpath
  deriving DecidableEq, Repr

inductive BackendChoice
  | webDriver (settings : BrowserSettings)
  | desktop
  | dryRun (assumePresent : Bool)
  deriving DecidableEq, Repr

structure Profile where
  store : String
  actionsSection : String := "Actions"
  backend : BackendChoice := .webDriver {}
  run : RunSettings := {}
  runs : List String := []
  deriving DecidableEq, Repr

def MissingText.name : MissingText → String
  | skip => "skip"
  | diagnostic => "diagnostic"

end Replay
