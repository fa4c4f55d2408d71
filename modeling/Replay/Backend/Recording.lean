import Replay.Backend.ScriptedPage

/-!
A backend that notes every call, over a page that never changes. Chosen locators make every call that
names them fail.
-/

namespace Replay

structure Recording where
  elements : Dict (List String)
  failing : Dict String
  calls : List Call
  deriving DecidableEq, Repr

namespace Recording

def empty : Recording := ⟨∅, ∅, []⟩

def texts (recording : Recording) (locator : String) : List String :=
  (recording.elements.get? locator).getD []

def addElement (recording : Recording) (locator text : String) : Recording :=
  { recording with
    elements := recording.elements.insert locator (recording.texts locator ++ [text]) }

def addFault (recording : Recording) (locator message : String) : Recording :=
  { recording with failing := recording.failing.insert locator message }

def note (recording : Recording) (call : Call) : Recording :=
  { recording with calls := recording.calls ++ [call] }

def fault (recording : Recording) (locator : String) : Except BackendError Unit :=
  match recording.failing.get? locator with
  | some message => .error (.session message)
  | none => .ok ()

def demand (recording : Recording) (locator : String) : Except BackendError Unit := do
  recording.fault locator
  if recording.texts locator = [] then .error (.elementNotFound locator) else .ok ()

def textOf (recording : Recording) (element : Element) : Except BackendError String :=
  match splitNumbered element with
  | none => .error (.protocol s!"bad handle {element.id}")
  | some (locator, index) =>
    match Numeral.readWord? index with
    | none => .error (.protocol s!"bad handle {element.id}")
    | some index =>
      match (recording.texts locator)[index]? with
      | some text => .ok text
      | none => .error (.elementNotFound locator)

def backend : Backend Recording where
  name := "recording"
  navigate url recording := (recording.fault url, recording.note (.navigate url))
  click locator recording := (recording.demand locator, recording.note (.click locator))
  clear locator recording := (recording.demand locator, recording.note (.clear locator))
  sendKeys locator text recording :=
    (recording.demand locator, recording.note (.sendKeys locator text))
  refresh recording := (.ok (), recording.note .refresh)
  find locator recording :=
    ((recording.fault locator).map fun _ =>
        numberedElements locator (recording.texts locator).length,
      recording.note (.find locator))
  textOf element recording := (recording.textOf element, recording.note (.textOf element.id))
  pause nanos recording := recording.note (.pause nanos)

def pauses (recording : Recording) : List Nat :=
  recording.calls.filterMap fun call => match call with
    | .pause nanos => some nanos
    | _ => none

def lookups (recording : Recording) : Nat :=
  recording.calls.countP fun call => match call with
    | .find _ => true
    | .textOf _ => true
    | _ => false

end Recording

end Replay
