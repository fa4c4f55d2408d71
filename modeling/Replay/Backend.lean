/-!
Backends: what drives a user interface. A backend is given by what each call answers and how it changes
the backend's state.
-/

namespace Replay

inductive BackendError
  | elementNotFound (locator : String)
  | navigation (detail : String)
  | timeout (detail : String)
  | session (detail : String)
  | unsupported (detail : String)
  | protocol (detail : String)
  deriving DecidableEq, Repr

def BackendError.message : BackendError → String
  | elementNotFound locator => s!"no element matches '{locator}'"
  | navigation detail => s!"navigation failed: {detail}"
  | timeout detail => s!"timed out: {detail}"
  | session detail => s!"session error: {detail}"
  | unsupported detail => s!"unsupported by this backend: {detail}"
  | protocol detail => s!"protocol error: {detail}"

structure Element where
  id : String
  deriving DecidableEq, Repr

abbrev Attempt (σ α : Type) := σ → Except BackendError α × σ

namespace Attempt

variable {σ : Type}

def andThen (first next : Attempt σ Unit) : Attempt σ Unit := fun state =>
  match first state with
  | (.error error, state) => (.error error, state)
  | (.ok (), state) => next state

/-- Goes on in any case. A failure of the second attempt comes before one of the first. -/
def andAlways (first next : Attempt σ Unit) : Attempt σ Unit := fun state =>
  let (earlier, state) := first state
  let (later, state) := next state
  (later.bind fun () => earlier, state)

end Attempt

/-- The calls that a script can make. `click`, `clear` and `sendKeys` act on the first element that
matches. Pauses are in nanoseconds and cannot fail. -/
structure Backend (σ : Type) where
  name : String
  navigate : String → Attempt σ Unit
  click : String → Attempt σ Unit
  clear : String → Attempt σ Unit
  sendKeys : (locator text : String) → Attempt σ Unit
  refresh : Attempt σ Unit
  find : String → Attempt σ (List Element)
  textOf : Element → Attempt σ String
  pause : (nanos : Nat) → σ → σ

/-- The key that submits a form, as it stands in a text to be typed. -/
def submitCharacter : Char := Char.ofNat 0xE007

def submitKey : String := String.singleton submitCharacter

inductive Call
  | navigate (url : String)
  | click (locator : String)
  | clear (locator : String)
  | sendKeys (locator text : String)
  | refresh
  | find (locator : String)
  | textOf (element : String)
  | pause (nanos : Nat)
  deriving DecidableEq, Repr

namespace Backend

variable {σ α : Type}

def noting (call : Call) (attempt : Attempt σ α) : Attempt (σ × List Call) α :=
  fun (state, calls) =>
    let (answer, state) := attempt state
    (answer, state, calls ++ [call])

def logged (backend : Backend σ) : Backend (σ × List Call) where
  name := backend.name
  navigate url := noting (.navigate url) (backend.navigate url)
  click locator := noting (.click locator) (backend.click locator)
  clear locator := noting (.clear locator) (backend.clear locator)
  sendKeys locator text := noting (.sendKeys locator text) (backend.sendKeys locator text)
  refresh := noting .refresh backend.refresh
  find locator := noting (.find locator) (backend.find locator)
  textOf element := noting (.textOf element.id) (backend.textOf element)
  pause nanos state := (backend.pause nanos state.1, state.2 ++ [.pause nanos])

end Backend

end Replay
