import Replay.Backend
import Replay.Input
import Replay.Number.Numeral
import Replay.Text.Blank
import Replay.Text.Split

/-!
A backend for desktop programs, by simulated input. A locator is a pair of screen coordinates, and there
is nothing to navigate or to read.
-/

namespace Replay

def readCoordinates (locator : String) : Option (Int × Int) :=
  (Text.cutAtFirst (· == ',') locator.toList).bind fun parts =>
    (Numeral.readInt32? (Text.trim parts.1)).bind fun x =>
      (Numeral.readInt32? (Text.trim parts.2)).map fun y => (x, y)

def coordinatesText (x y : Int) : String := toString x ++ ", " ++ toString y

/-- The state of the input device, which is opened at the first need and stays open. -/
structure Desktop (τ : Type) where
  opened : Bool
  device : τ
  deriving DecidableEq, Repr

namespace Desktop

open Input (Device Event)

variable {τ : Type}

def start (state : τ) : Desktop τ := ⟨false, state⟩

def inputError (detail : String) : BackendError := .session s!"input simulation failed: {detail}"

def ensureOpen (device : Device τ) : Attempt (Desktop τ) Unit := fun desktop =>
  if desktop.opened then (.ok (), desktop)
  else
    match device.connect desktop.device with
    | (.error detail, state) =>
      (.error (.session s!"failed to initialize Enigo: {detail}"), ⟨false, state⟩)
    | (.ok (), state) => (.ok (), ⟨true, state⟩)

def perform (device : Device τ) (event : Event) : Attempt (Desktop τ) Unit := fun desktop =>
  let (answer, state) := device.perform event desktop.device
  (answer.mapError inputError, { desktop with device := state })

def performAll (device : Device τ) : List Event → Attempt (Desktop τ) Unit
  | [] => fun desktop => (.ok (), desktop)
  | event :: rest => (perform device event).andThen (performAll device rest)

def clickAt (device : Device τ) (locator : String) : Attempt (Desktop τ) Unit :=
  match readCoordinates locator with
  | none => fun desktop => (.error (.elementNotFound locator), desktop)
  | some (x, y) =>
    (ensureOpen device).andThen (performAll device [.move x y, .leftButton .click])

/-- The shortcut that selects everything. Its first key is released even if the second one fails, whose
failure is then reported. -/
def selectAll (device : Device τ) : Attempt (Desktop τ) Unit :=
  let shortcutKey := device.platform.shortcutKey
  (perform device (.key shortcutKey .press)).andThen <|
    (perform device (.key (.character 'a') .click)).andAlways
      (perform device (.key shortcutKey .release))

def clear (device : Device τ) (locator : String) : Attempt (Desktop τ) Unit :=
  (clickAt device locator).andThen <| (ensureOpen device).andThen <|
    (selectAll device).andThen (perform device (.key .delete .click))

def writing (piece : List Char) : List Event :=
  if piece = [] then [] else [.text (String.ofList piece)]

/-- The events that type a text. A submit key is struck, and what stands between is written. -/
def typing (text : String) : List Event :=
  [Event.key .enter .click].intercalate
    ((Text.pieces (· == submitCharacter) text.toList).map writing)

def sendKeys (device : Device τ) (locator text : String) : Attempt (Desktop τ) Unit :=
  (clickAt device locator).andThen <| (ensureOpen device).andThen (performAll device (typing text))

def backend (device : Device τ) : Backend (Desktop τ) where
  name := "desktop"
  navigate url desktop := (.error (.unsupported s!"navigate to {url}"), desktop)
  click := clickAt device
  clear := clear device
  sendKeys := sendKeys device
  refresh desktop := (.error (.unsupported "refresh"), desktop)
  find locator desktop :=
    (.ok (match readCoordinates locator with
      | some (x, y) => [⟨coordinatesText x y⟩]
      | none => []), desktop)
  textOf element desktop := (.error (.unsupported s!"reading text at {element.id}"), desktop)
  pause _ desktop := desktop

end Desktop

end Replay
