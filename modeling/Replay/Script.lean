import Replay.Number.Numeral
import Replay.ScriptError
import Replay.Text.Blank

/-!
Reading a script from JSON: a list of commands, each a list of its name and its arguments, such as
`[["get", "https://x"], ["exist", "#a", [["click", "#a"]]]]`.
-/

namespace Replay.Script

open Json (Value)

def malformed {α : Type} (path : Path) (malformation : Malformation) : Except ScriptError α :=
  .error ⟨path, .malformed malformation⟩

def arity (path : Path) (command : String) (args : List Value) (least most : Nat) :
    Except ScriptError Unit :=
  if least ≤ args.length ∧ args.length ≤ most then .ok ()
  else malformed path (.wrongArity command least most args.length)

def textArg (path : Path) (command : String) (index : Nat) : Value → Except ScriptError String
  | .text value => .ok value
  | value => malformed path (.argumentNotText command index value)

def seconds? : Value → Option Binary64
  | .number value => some value.toBinary64
  | .text value => Numeral.readBinary64? (Text.trim value.toList)
  | _ => none

def readDuration (path : Path) (value : Value) : Except ScriptError Nat :=
  match seconds? value with
  | none => malformed path (.notSeconds value)
  | some seconds =>
    match Duration.ofSeconds seconds with
    | .ok nanos => .ok nanos
    | .error error => malformed path (.badDuration seconds error)

def readMode (path : Path) (value : Value) : Except ScriptError TypingMode :=
  match textArg path "send_keys" 2 value with
  | .error error => .error error
  | .ok "literal" => .ok .literal
  | .ok "enter" => .ok .submit
  | .ok "loop" => .ok .loop
  | .ok mode => malformed path (.unknownMode mode)

def typeText (path : Path) (locator text : Value) (mode : Option Value) :
    Except ScriptError Action := do
  let locator ← textArg path "send_keys" 0 locator
  let text ← textArg path "send_keys" 1 text
  let mode ← match mode with
    | none => pure .literal
    | some mode => readMode path mode
  if mode = .loop ∧ text ≠ "" then malformed path .loopModeWithText
  else return .typeText locator text mode

/-- The arguments of `text`: a locator, and a label that may be left out. -/
def readTextAction (path : Path) (locator : Value) (label : Option Value) :
    Except ScriptError Action := do
  let label ← match label with
    | none => pure none
    | some label => some <$> textArg path "text" 1 label
  return .readText (← textArg path "text" 0 locator) label

/-- An action without a body. `none` if there is no such command. -/
def simpleAction? (path : Path) (command : String) (args : List Value) :
    Option (Except ScriptError Action) :=
  match command with
  | "get" => some do
    arity path command args 1 1
    return .navigate (← textArg path command 0 (args.getD 0 .null))
  | "click" => some do
    arity path command args 1 1
    return .click (← textArg path command 0 (args.getD 0 .null))
  | "clear" => some do
    arity path command args 1 1
    return .clear (← textArg path command 0 (args.getD 0 .null))
  | "send_keys" => some do
    arity path command args 2 3
    typeText path (args.getD 0 .null) (args.getD 1 .null) args[2]?
  | "sleep" => some do
    arity path command args 1 1
    return .wait (← readDuration path (args.getD 0 .null))
  | "refresh" => some do
    arity path command args 0 0
    return .refresh
  | "text" => some do
    arity path command args 1 2
    readTextAction path (args.getD 0 .null) args[1]?
  | _ => none

mutual

def ofValue (path : Path) (value : Value) : Except ScriptError (List Action) :=
  if maxNesting < path.depth then malformed path .tooDeep
  else
    match value with
    | .list items => ofItems path 0 items
    | _ => malformed path (.notList value)

def ofItems (parent : Path) (index : Nat) : List Value → Except ScriptError (List Action)
  | [] => .ok []
  | item :: rest => do
    let action ← actionOfValue (parent.child index) item
    return action :: (← ofItems parent (index + 1) rest)

def actionOfValue (path : Path) : Value → Except ScriptError Action
  | .list [] => malformed path .emptyAction
  | .list (.text command :: args) => actionOfParts path command args
  | .list (command :: _) => malformed path (.commandNotText command)
  | value => malformed path (.notAction value)

def actionOfParts (path : Path) (command : String) : List Value → Except ScriptError Action
  | [first, body] =>
    match command with
    | "exist" => do
      let locator ← textArg path command 0 first
      return .ifExists locator (← ofValue path body)
    | "for" => do
      let source ← textArg path command 0 first
      return .forEachToken source (← ofValue path body)
    | _ => (simpleAction? path command [first, body]).getD
        (malformed path (.unknownCommand command))
  | args =>
    if command = "exist" ∨ command = "for" then
      malformed path (.wrongArity command 2 2 args.length)
    else (simpleAction? path command args).getD (malformed path (.unknownCommand command))

end

def ofText (text : String) : Except ScriptError (List Action) :=
  match Json.readText text with
  | .ok value => ofValue .root value
  | .error error => malformed .root (.notJson error)

end Replay.Script
