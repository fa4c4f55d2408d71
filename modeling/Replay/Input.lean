namespace Replay.Input

inductive Platform
  | macOS
  | other
  deriving DecidableEq, Repr

inductive Key
  | control
  | command
  | delete
  | enter
  | character (c : Char)
  deriving DecidableEq, Repr

def Platform.shortcutKey : Platform → Key
  | macOS => .command
  | other => .control

inductive Direction
  | press
  | release
  | click
  deriving DecidableEq, Repr

inductive Event
  | move (x y : Int)
  | leftButton (direction : Direction)
  | key (key : Key) (direction : Direction)
  | text (text : String)
  deriving DecidableEq, Repr

/-- What comes of opening the device and of each event, and how the device changes. A failure has its
detail. -/
structure Device (τ : Type) where
  platform : Platform
  connect : τ → Except String Unit × τ
  perform : Event → τ → Except String Unit × τ

def Device.refusing (τ : Type) (detail : String) : Device τ where
  platform := .other
  connect state := (.error detail, state)
  perform _ state := (.error detail, state)

def Device.logged {τ : Type} (device : Device τ) : Device (τ × List Event) where
  platform := device.platform
  connect := fun (state, events) =>
    let (answer, state) := device.connect state
    (answer, state, events)
  perform event := fun (state, events) =>
    let (answer, state) := device.perform event state
    (answer, state, events ++ [event])

end Replay.Input
