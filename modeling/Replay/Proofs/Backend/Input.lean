import Replay.Backend.Desktop

/-!
How simulated input fails, and what it asks of the device. Only a locator without coordinates is reported
as a missing element; what the device refuses is a failure of the session.
-/

namespace Replay

namespace Attempt

variable {σ : Type} {first next : Attempt σ Unit}

def FailsInSession (attempt : Attempt σ Unit) : Prop :=
  ∀ state error, (attempt state).1 = .error error → ∃ detail, error = .session detail

theorem andThen_cases (first next : Attempt σ Unit) (state : σ) :
    (∃ error, (first state).1 = .error error ∧
        first.andThen next state = (.error error, (first state).2)) ∨
      (first state).1 = .ok () ∧ first.andThen next state = next (first state).2 := by
  rw [andThen]
  rcases first state with ⟨error | done, after⟩
  · exact .inl ⟨error, rfl, rfl⟩
  · exact .inr ⟨rfl, rfl⟩

theorem FailsInSession.andThen (earlier : FailsInSession first) (later : FailsInSession next) :
    FailsInSession (first.andThen next) := by
  intro state error failed
  rcases andThen_cases first next state with ⟨cause, stopped, outcome⟩ | ⟨_, outcome⟩
  · rw [outcome] at failed
    exact earlier state error (stopped.trans failed)
  · rw [outcome] at failed
    exact later _ error failed

theorem FailsInSession.andAlways (earlier : FailsInSession first) (later : FailsInSession next) :
    FailsInSession (first.andAlways next) := by
  intro state error failed
  change ((next (first state).2).1.bind fun _ => (first state).1) = .error error at failed
  cases stopped : (next (first state).2).1 with
  | error cause =>
    rw [stopped] at failed
    exact later _ error (stopped.trans failed)
  | ok done =>
    rw [stopped] at failed
    exact earlier state error failed

theorem andAlways_state (first next : Attempt σ Unit) (state : σ) :
    (first.andAlways next state).2 = (next (first state).2).2 := rfl

end Attempt

namespace Desktop

open Attempt Input

variable {τ : Type} (device : Device τ)

theorem failsInSession_ensureOpen : FailsInSession (ensureOpen device) := by
  intro desktop error failed
  rw [ensureOpen] at failed
  split at failed
  · cases failed
  · split at failed
    · next detail state refused =>
      refine ⟨s!"failed to initialize Enigo: {detail}", ?_⟩
      exact (Except.error.inj failed).symm
    · cases failed

theorem failsInSession_perform (event : Event) : FailsInSession (perform device event) := by
  intro desktop error failed
  change (device.perform event desktop.device).1.mapError inputError = .error error at failed
  cases answer : (device.perform event desktop.device).1 with
  | error detail =>
    rw [answer] at failed
    exact ⟨s!"input simulation failed: {detail}", (Except.error.inj failed).symm⟩
  | ok done =>
    rw [answer] at failed
    cases failed

theorem failsInSession_performAll (events : List Event) :
    FailsInSession (performAll device events) := by
  induction events with
  | nil =>
    intro desktop error failed
    cases failed
  | cons event rest ih => exact (failsInSession_perform device event).andThen ih

theorem failsInSession_selectAll : FailsInSession (selectAll device) := by
  have struck := fun key direction => failsInSession_perform device (.key key direction)
  exact (struck _ _).andThen ((struck _ _).andAlways (struck _ _))

/-- A call at the place of a locator. Without coordinates it fails for want of an element and changes
nothing. -/
structure ActsAt (locator : String) (attempt : Attempt (Desktop τ) Unit) : Prop where
  absent : readCoordinates locator = none →
    ∀ desktop, attempt desktop = (.error (.elementNotFound locator), desktop)
  present : readCoordinates locator ≠ none → FailsInSession attempt

theorem actsAt_clickAt (locator : String) : ActsAt locator (clickAt device locator) := by
  constructor
  · intro unread desktop
    rw [clickAt, unread]
  · intro placed
    obtain ⟨⟨x, y⟩, read⟩ := Option.ne_none_iff_exists'.mp placed
    rw [clickAt, read]
    exact (failsInSession_ensureOpen device).andThen (failsInSession_performAll device _)

variable {device} {locator : String} {attempt next : Attempt (Desktop τ) Unit}

theorem ActsAt.andThen (acts : ActsAt locator attempt) (session : FailsInSession next) :
    ActsAt locator (attempt.andThen next) := by
  constructor
  · intro unread desktop
    rw [Attempt.andThen, acts.absent unread]
  · intro placed
    exact (acts.present placed).andThen session

theorem ActsAt.elementNotFound_iff (acts : ActsAt locator attempt) (desktop : Desktop τ) :
    (attempt desktop).1 = .error (.elementNotFound locator) ↔ readCoordinates locator = none := by
  constructor
  · intro missing
    apply Decidable.byContradiction
    intro placed
    obtain ⟨detail, same⟩ := acts.present placed desktop _ missing
    cases same
  · intro unread
    rw [acts.absent unread]

variable (device)

theorem actsAt_clear (locator : String) : ActsAt locator (clear device locator) := by
  have emptied := (failsInSession_selectAll device).andThen
    (failsInSession_perform device (.key .delete .click))
  exact (actsAt_clickAt device locator).andThen ((failsInSession_ensureOpen device).andThen emptied)

theorem actsAt_sendKeys (locator text : String) :
    ActsAt locator (sendKeys device locator text) := by
  have typed := failsInSession_performAll device (typing text)
  exact (actsAt_clickAt device locator).andThen ((failsInSession_ensureOpen device).andThen typed)

theorem perform_logged (event : Event) (desktop : Desktop (τ × List Event)) :
    (perform device.logged event desktop).2.device.2 = desktop.device.2 ++ [event] := rfl

/-- The first key of the shortcut is not left down, whatever comes of the second one. -/
theorem selectAll_releases (desktop : Desktop (τ × List Event)) :
    (selectAll device.logged desktop).1 ≠ .ok () ∧
        (selectAll device.logged desktop).2.device.2 = desktop.device.2 ++
          [.key device.platform.shortcutKey .press] ∨
      (selectAll device.logged desktop).2.device.2 = desktop.device.2 ++
        [.key device.platform.shortcutKey .press, .key (.character 'a') .click,
          .key device.platform.shortcutKey .release] := by
  have outcomes := andThen_cases
    (perform device.logged (.key device.platform.shortcutKey .press))
    ((perform device.logged (.key (.character 'a') .click)).andAlways
      (perform device.logged (.key device.platform.shortcutKey .release))) desktop
  change (∃ error, _ ∧ selectAll device.logged desktop = _) ∨
    _ ∧ selectAll device.logged desktop = _ at outcomes
  rcases outcomes with ⟨error, _, outcome⟩ | ⟨_, outcome⟩
  · left
    rw [outcome]
    exact ⟨nofun, perform_logged device _ desktop⟩
  · right
    rw [outcome, andAlways_state, perform_logged, perform_logged, perform_logged]
    simp

/-- Where the call succeeds it has asked the device for these events. -/
def Asks (events : List Event) (attempt : Attempt (Desktop (τ × List Event)) Unit) : Prop :=
  ∀ desktop, (attempt desktop).1 = .ok () →
    (attempt desktop).2.device.2 = desktop.device.2 ++ events

theorem Asks.andThen {first next : Attempt (Desktop (τ × List Event)) Unit}
    {earlier later : List Event} (one : Asks earlier first) (other : Asks later next) :
    Asks (earlier ++ later) (first.andThen next) := by
  intro desktop succeeds
  rcases andThen_cases first next desktop with ⟨cause, _, outcome⟩ | ⟨done, outcome⟩
  · rw [outcome] at succeeds
    cases succeeds
  · rw [outcome] at succeeds ⊢
    rw [other _ succeeds, one desktop done, List.append_assoc]

theorem asks_perform (event : Event) : Asks [event] (perform device.logged event) :=
  fun desktop _ => perform_logged device event desktop

theorem asks_ensureOpen : Asks [] (ensureOpen device.logged) := by
  rintro ⟨opened, state, events⟩ _
  rw [ensureOpen, List.append_nil]
  cases opened with
  | true => rfl
  | false =>
    have connected : device.logged.connect (state, events) =
        ((device.connect state).1, (device.connect state).2, events) := rfl
    dsimp only
    rw [connected]
    cases (device.connect state).1 <;> rfl

theorem asks_performAll (events : List Event) : Asks events (performAll device.logged events) := by
  induction events with
  | nil => exact fun desktop _ => (List.append_nil _).symm
  | cons event rest ih => exact (asks_perform device event).andThen ih

theorem asks_clickAt {locator : String} {x y : Int} (read : readCoordinates locator = some (x, y)) :
    Asks [.move x y, .leftButton .click] (clickAt device.logged locator) := by
  rw [clickAt, read]
  exact (asks_ensureOpen device).andThen (asks_performAll device _)

theorem asks_selectAll :
    Asks [.key device.platform.shortcutKey .press, .key (.character 'a') .click,
      .key device.platform.shortcutKey .release] (selectAll device.logged) := by
  intro desktop succeeds
  rcases selectAll_releases device desktop with ⟨fails, _⟩ | asked
  · exact absurd succeeds fails
  · exact asked

theorem asks_clear {locator : String} {x y : Int} (read : readCoordinates locator = some (x, y)) :
    Asks [.move x y, .leftButton .click, .key device.platform.shortcutKey .press,
      .key (.character 'a') .click, .key device.platform.shortcutKey .release, .key .delete .click]
      (clear device.logged locator) := by
  have emptied := (asks_selectAll device).andThen (asks_perform device (.key .delete .click))
  exact (asks_clickAt device read).andThen ((asks_ensureOpen device).andThen emptied)

def spelling : Event → List Char
  | .text text => text.toList
  | .key .enter .click => [submitCharacter]
  | _ => []

theorem spelling_writing (piece : List Char) : (writing piece).flatMap spelling = piece := by
  rw [writing]
  split
  · next empty => exact empty.symm
  · simp [spelling]

theorem spelling_intercalate (pieces : List (List Char)) :
    ([Event.key .enter .click].intercalate (pieces.map writing)).flatMap spelling =
      [submitCharacter].intercalate pieces := by
  induction pieces with
  | nil => rfl
  | cons piece rest ih =>
    cases rest with
    | nil =>
      rw [List.map_singleton, List.intercalate_singleton, List.intercalate_singleton]
      exact spelling_writing piece
    | cons next rest =>
      rw [List.map_cons] at ih ⊢
      rw [List.map_cons, List.intercalate_cons_cons, List.intercalate_cons_cons,
        List.flatMap_append, List.flatMap_append, spelling_writing, ih]
      rfl

/-- Typing that succeeds is a click at the place and then the whole text, submit keys included. -/
theorem asks_sendKeys {locator : String} {x y : Int} (read : readCoordinates locator = some (x, y))
    (text : String) :
    Asks (.move x y :: .leftButton .click :: typing text) (sendKeys device.logged locator text) ∧
      (typing text).flatMap spelling = text.toList := by
  have typed := asks_performAll device (typing text)
  constructor
  · exact (asks_clickAt device read).andThen ((asks_ensureOpen device).andThen typed)
  · rw [typing, spelling_intercalate, Text.intercalate_pieces]

end Desktop

end Replay
