import Replay.Action
import Replay.Backend
import Replay.Duration
import Replay.Json.Outline
import Replay.Template

namespace Replay

inductive Malformation
  | notJson (error : Json.ReadError)
  | tooDeep
  | notList (value : Json.Value)
  | notAction (value : Json.Value)
  | emptyAction
  | commandNotText (value : Json.Value)
  | wrongArity (command : String) (least most found : Nat)
  | argumentNotText (command : String) (index : Nat) (value : Json.Value)
  | unknownMode (mode : String)
  | loopModeWithText
  | notSeconds (value : Json.Value)
  | badDuration (seconds : Binary64) (error : DurationError)
  | unknownCommand (command : String)
  deriving DecidableEq, Repr

def maxNesting : Nat := 32

def Malformation.message : Malformation → String
  | notJson error => s!"script is not a valid JSON list: {error.message}"
  | tooDeep => s!"nesting exceeds the maximum depth of {maxNesting}"
  | notList value => s!"expected a list of actions, found {value.compact}"
  | notAction value => s!"expected [command, args...], found {value.compact}"
  | emptyAction => "empty action"
  | commandNotText value => s!"command name must be a string, found {value.compact}"
  | wrongArity command least most found =>
    let expected := if least = most then s!"{least}" else s!"{least} to {most}"
    s!"'{command}' takes {expected} argument(s), found {found}"
  | argumentNotText command index value =>
    s!"'{command}' argument {index + 1} must be a string, found {value.compact}"
  | unknownMode mode => s!"unknown send_keys mode '{mode}' (expected literal, enter or loop)"
  | loopModeWithText => "send_keys in loop mode takes an empty text argument"
  | notSeconds value => s!"'sleep' expects a number of seconds, found {value.compact}"
  | badDuration seconds error =>
    let found := String.ofList seconds.positional
    s!"'sleep' duration must be a non-negative number of seconds, found {found} ({error.message})"
  | unknownCommand command => s!"unknown command '{command}'"

inductive Cause
  | unresolved (reference : Reference)
  | unboundLoop
  | backend (error : BackendError)
  | malformed (malformation : Malformation)
  deriving DecidableEq, Repr

def Cause.message : Cause → String
  | unresolved reference => reference.message
  | unboundLoop => "loop variable used outside of a `for` body"
  | backend error => s!"backend error: {error.message}"
  | malformed malformation => s!"malformed action: {malformation.message}"

structure ScriptError where
  path : Path
  cause : Cause
  deriving DecidableEq, Repr

namespace ScriptError

def message (error : ScriptError) : String :=
  s!"action {error.path.text}: {error.cause.message}"

def isBackend (error : ScriptError) : Bool :=
  match error.cause with
  | .backend _ => true
  | _ => false

end ScriptError

end Replay
