import Replay.Action.Path

/-!
Scripts: lists of actions, some of which hold a list of their own. The texts of a script are visited
in document order.
-/

namespace Replay

inductive TypingMode
  | literal
  | submit
  /-- The token of the innermost loop. -/
  | loop
  deriving DecidableEq, Repr

/-- One step of a script. Durations are in nanoseconds. -/
inductive Action
  | navigate (url : String)
  | click (locator : String)
  | clear (locator : String)
  | typeText (locator text : String) (mode : TypingMode)
  | wait (nanos : Nat)
  | refresh
  /-- Reads the text of the first match. The label names it where there is none. -/
  | readText (locator : String) (label : Option String)
  | ifExists (locator : String) (body : List Action)
  | forEachToken (source : String) (body : List Action)
  deriving Repr, Inhabited

mutual

def Action.same : Action → Action → Bool
  | .navigate url, .navigate url' => url == url'
  | .click locator, .click locator' => locator == locator'
  | .clear locator, .clear locator' => locator == locator'
  | .typeText locator text mode, .typeText locator' text' mode' =>
    locator == locator' && text == text' && mode == mode'
  | .wait nanos, .wait nanos' => nanos == nanos'
  | .refresh, .refresh => true
  | .readText locator label, .readText locator' label' => locator == locator' && label == label'
  | .ifExists locator body, .ifExists locator' body' => locator == locator' && sameActions body body'
  | .forEachToken source body, .forEachToken source' body' =>
    source == source' && sameActions body body'
  | _, _ => false

def sameActions : List Action → List Action → Bool
  | [], [] => true
  | action :: rest, action' :: rest' => action.same action' && sameActions rest rest'
  | _, _ => false

end

mutual

theorem Action.same_iff : (action other : Action) → (action.same other = true ↔ action = other)
  | .navigate _, other => by cases other <;> simp [Action.same]
  | .click _, other => by cases other <;> simp [Action.same]
  | .clear _, other => by cases other <;> simp [Action.same]
  | .typeText _ _ _, other => by cases other <;> simp [Action.same, and_assoc]
  | .wait _, other => by cases other <;> simp [Action.same]
  | .refresh, other => by cases other <;> simp [Action.same]
  | .readText _ _, other => by cases other <;> simp [Action.same]
  | .ifExists _ body, other => by cases other <;> simp [Action.same, sameActions_iff body]
  | .forEachToken _ body, other => by cases other <;> simp [Action.same, sameActions_iff body]

theorem sameActions_iff : (script other : List Action) →
    (sameActions script other = true ↔ script = other)
  | [], other => by cases other <;> simp [sameActions]
  | action :: rest, other => by
    cases other <;> simp [sameActions, Action.same_iff action, sameActions_iff rest]

end

instance : DecidableEq Action := fun action other =>
  decidable_of_iff _ (Action.same_iff action other)

namespace Action

def command : Action → String
  | navigate _ => "get"
  | click _ => "click"
  | clear _ => "clear"
  | typeText .. => "send_keys"
  | wait _ => "sleep"
  | refresh => "refresh"
  | readText .. => "text"
  | ifExists .. => "exist"
  | forEachToken .. => "for"

def ownTexts : Action → List String
  | navigate url => [url]
  | click locator => [locator]
  | clear locator => [locator]
  | typeText locator text _ => [locator, text]
  | wait _ => []
  | refresh => []
  | readText locator label => locator :: label.toList
  | ifExists locator _ => [locator]
  | forEachToken source _ => [source]

def body : Action → List Action
  | ifExists _ body => body
  | forEachToken _ body => body
  | _ => []

end Action

section Visit

variable {m : Type → Type} [Monad m]

mutual

def Action.mapTexts (f : String → Path → m String) (path : Path) : Action → m Action
  | .navigate url => return .navigate (← f url path)
  | .click locator => return .click (← f locator path)
  | .clear locator => return .clear (← f locator path)
  | .typeText locator text mode => do
    let locator ← f locator path
    let text ← f text path
    return .typeText locator text mode
  | .wait nanos => return .wait nanos
  | .refresh => return .refresh
  | .readText locator label => do
    let locator ← f locator path
    match label with
    | none => return .readText locator none
    | some label => return .readText locator (some (← f label path))
  | .ifExists locator body => do
    let locator ← f locator path
    return .ifExists locator (← mapTextsFrom f path 0 body)
  | .forEachToken source body => do
    let source ← f source path
    return .forEachToken source (← mapTextsFrom f path 0 body)

/-- Replaces the texts of a list whose first action has the given index below the path. -/
def mapTextsFrom (f : String → Path → m String) (parent : Path) (index : Nat) :
    List Action → m (List Action)
  | [] => return []
  | action :: rest => do
    let action ← action.mapTexts f (parent.child index)
    return action :: (← mapTextsFrom f parent (index + 1) rest)

end

def mapTexts (f : String → Path → m String) (parent : Path) (script : List Action) :
    m (List Action) :=
  mapTextsFrom f parent 0 script

end Visit

end Replay
