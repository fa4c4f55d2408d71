import Replay.Execution.LoopCheck
import Replay.Execution.Settings

/-!
Running a script against a backend. The first failure ends the run; the texts read until then and the
state of the backend are kept.
-/

namespace Replay

/-- The tokens of a loop's source: its pieces between commas followed by a space, the empty ones left
out. -/
def loopTokens (source : String) : List String :=
  ((Text.commaPieces source.toList).filter (· ≠ [])).map String.ofList

def isQuote (c : Char) : Bool := c == '"' || c == '\''

/-- The text between the first quote of a locator and the next quote of the same kind, unless it is
empty. -/
def quotedLabelChars : List Char → Option (List Char)
  | [] => none
  | c :: rest =>
    if isQuote c then
      (Text.cutAtFirst (· == c) rest).bind fun parts => if parts.1 = [] then none else some parts.1
    else quotedLabelChars rest

def quotedLabel (locator : String) : Option String :=
  (quotedLabelChars locator.toList).map String.ofList

/-- A run in progress: the backend's state, the texts read so far, and the tokens of the loops around
the current action, the innermost first. -/
structure Session (σ : Type) where
  backend : σ
  texts : List String
  bindings : List String
  deriving DecidableEq, Repr

namespace Session

variable {σ : Type}

def start (backend : σ) : Session σ := ⟨backend, [], []⟩

def binding? (session : Session σ) : Option String := session.bindings.head?

def render (session : Session σ) (template : String) : String :=
  Template.render template session.binding?

def addText (session : Session σ) (text : String) : Session σ :=
  { session with texts := session.texts ++ [text] }

end Session

abbrev Outcome (σ : Type) := Except ScriptError Unit × Session σ

namespace Execution

variable {σ α : Type}

def call (path : Path) (attempt : Attempt σ α) (session : Session σ)
    (proceed : α → Session σ → Outcome σ) : Outcome σ :=
  match attempt session.backend with
  | (.ok answer, state) => proceed answer { session with backend := state }
  | (.error error, state) => (.error ⟨path, .backend error⟩, { session with backend := state })

def done (_ : Unit) (session : Session σ) : Outcome σ := (.ok (), session)

def noteMissing (policy : MissingText) (locator : String) (label : Option String)
    (session : Session σ) : Session σ :=
  match policy with
  | .skip => session
  | .diagnostic =>
    match label.or (quotedLabel locator) with
    | some label => session.addText s!"{label} does not exist."
    | none => session

def readFirst (backend : Backend σ) (policy : MissingText) (path : Path) (locator : String)
    (label : Option String) (found : List Element) (session : Session σ) : Outcome σ :=
  match found with
  | [] => (.ok (), noteMissing policy locator label session)
  | element :: _ =>
    call path (backend.textOf element) session fun text session =>
      (.ok (), session.addText text)

/-- Runs a body once per token, with a pause after each turn. The token is bound during the turn and
no longer, whether the turn succeeds or not. -/
def forTokens (backend : Backend σ) (delay : Nat) (body : Session σ → Outcome σ) :
    List String → Session σ → Outcome σ
  | [], session => (.ok (), session)
  | token :: rest, session =>
    match body { session with bindings := token :: session.bindings } with
    | (.ok (), after) =>
      forTokens backend delay body rest
        { after with
          backend := backend.pause delay after.backend, bindings := after.bindings.tail }
    | (.error error, after) => (.error error, { after with bindings := after.bindings.tail })

mutual

def runStep (backend : Backend σ) (settings : RunSettings) (path : Path) (action : Action)
    (session : Session σ) : Outcome σ :=
  match action with
  | .navigate url => call path (backend.navigate (session.render url)) session done
  | .click locator => call path (backend.click (session.render locator)) session done
  | .clear locator => call path (backend.clear (session.render locator)) session done
  | .typeText locator text mode =>
    let locator := session.render locator
    match mode with
    | .literal => call path (backend.sendKeys locator (session.render text)) session done
    | .submit => call path (backend.sendKeys locator (session.render text ++ submitKey)) session done
    | .loop =>
      match session.binding? with
      | some token => call path (backend.sendKeys locator token) session done
      | none => (.error ⟨path, .unboundLoop⟩, session)
  | .wait nanos => (.ok (), { session with backend := backend.pause nanos session.backend })
  | .refresh => call path backend.refresh session done
  | .readText locator label =>
    let locator := session.render locator
    let label := label.map session.render
    call path (backend.find locator) session
      (readFirst backend settings.missingText path locator label)
  | .ifExists locator body =>
    call path (backend.find (session.render locator)) session fun found session =>
      if found = [] then (.ok (), session)
      else runFrom backend settings path 0 body session
  | .forEachToken source body =>
    forTokens backend (Duration.ofMillis settings.loopDelayMillis)
      (fun session => runFrom backend settings path 0 body session)
      (loopTokens (session.render source)) session

def runFrom (backend : Backend σ) (settings : RunSettings) (parent : Path) (index : Nat)
    (actions : List Action) (session : Session σ) : Outcome σ :=
  match actions with
  | [] => (.ok (), session)
  | action :: rest =>
    match runStep backend settings (parent.child index) action session with
    | (.ok (), session) => runFrom backend settings parent (index + 1) rest session
    | (.error error, session) => (.error error, session)

end

/-- Checks a script and runs it. A script that fails the check leaves the session as it is. -/
def run (backend : Backend σ) (settings : RunSettings) (script : List Action)
    (session : Session σ) : Outcome σ :=
  match checkLoops script with
  | .error error => (.error error, session)
  | .ok () => runFrom backend settings .root 0 script session

end Execution

end Replay
