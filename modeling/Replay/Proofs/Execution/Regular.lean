import Replay.Proofs.Execution.Sequence

namespace Replay

variable {σ α : Type}

structure Regular (bindings : List String) (outcome : Outcome σ) : Prop where
  bindings : outcome.2.bindings = bindings
  failure : ∀ error, outcome.1 = .error error → ∃ answer, error.cause = .backend answer

namespace Regular

variable {bindings : List String} {session : Session σ} {outcome : Outcome σ} {backend : Backend σ}

theorem ok (kept : session.bindings = bindings) : Regular bindings (.ok (), session) :=
  ⟨kept, nofun⟩

theorem call (path : Path) (attempt : Attempt σ α) {proceed : α → Session σ → Outcome σ}
    (kept : session.bindings = bindings)
    (next : ∀ answer state, Regular bindings (proceed answer { session with backend := state })) :
    Regular bindings (Execution.call path attempt session proceed) := by
  rw [Execution.call]
  split
  · exact next _ _
  · refine ⟨kept, fun error failed => ?_⟩
    obtain rfl := Except.error.inj failed
    exact ⟨_, rfl⟩

theorem andThen {next : Session σ → Outcome σ} (first : Regular bindings outcome)
    (rest : ∀ middle : Session σ, middle.bindings = bindings → Regular bindings (next middle)) :
    Regular bindings (outcome.andThen next) := by
  rcases outcome with ⟨error | ⟨⟩, middle⟩
  · exact ⟨first.bindings, first.failure⟩
  · exact rest middle first.bindings

theorem turn (delay : Nat) {body : Session σ → Outcome σ} {token : String}
    (inside : Regular (token :: session.bindings)
      (body { session with bindings := token :: session.bindings })) :
    Regular session.bindings (Execution.turn backend delay body token session) := by
  rw [Execution.turn]
  rcases ended : body { session with bindings := token :: session.bindings } with ⟨_ | _, after⟩
  · rw [ended] at inside
    exact ⟨congrArg List.tail inside.bindings, inside.failure⟩
  · rw [ended] at inside
    exact .ok (congrArg List.tail inside.bindings)

theorem forTokens (delay : Nat) {body : Session σ → Outcome σ} (tokens : List String)
    (inside : ∀ (token : String) (before : Session σ), before.bindings = session.bindings →
      Regular (token :: before.bindings)
        (body { before with bindings := token :: before.bindings })) :
    Regular session.bindings (Execution.forTokens backend delay body tokens session) := by
  induction tokens generalizing session with
  | nil => exact .ok rfl
  | cons token rest ih =>
    rw [Execution.forTokens_cons]
    refine (turn delay (inside token session rfl)).andThen fun middle kept => ?_
    rw [← kept]
    exact ih fun token before same => inside token before (same.trans kept)

theorem readFirst (policy : MissingText) (path : Path) (locator : String) (label : Option String)
    (found : List Element) (kept : session.bindings = bindings) :
    Regular bindings (Execution.readFirst backend policy path locator label found session) := by
  cases found with
  | nil =>
    rw [Execution.readFirst]
    exact .ok ((Execution.noteMissing_bindings policy locator label session).trans kept)
  | cons element others =>
    rw [Execution.readFirst]
    exact .call path _ kept fun _ _ => .ok kept

end Regular

namespace Execution

mutual

theorem runStep_regular (backend : Backend σ) (settings : RunSettings) (path : Path) :
    (action : Action) → (session : Session σ) →
    action.checkLoop session.binding?.isSome path = .ok () →
    Regular session.bindings (runStep backend settings path action session)
  | .navigate url, session, _ => by
    rw [runStep]
    exact .call path _ rfl fun _ _ => .ok rfl
  | .click locator, session, _ => by
    rw [runStep]
    exact .call path _ rfl fun _ _ => .ok rfl
  | .clear locator, session, _ => by
    rw [runStep]
    exact .call path _ rfl fun _ _ => .ok rfl
  | .typeText locator text .literal, session, _ => by
    rw [runStep]
    exact .call path _ rfl fun _ _ => .ok rfl
  | .typeText locator text .submit, session, _ => by
    rw [runStep]
    exact .call path _ rfl fun _ _ => .ok rfl
  | .typeText locator text .loop, session, accepted => by
    obtain ⟨token, bound⟩ := Option.isSome_iff_exists.mp (inLoop_of_checkLoop accepted)
    rw [runStep, bound]
    exact .call path _ rfl fun _ _ => .ok rfl
  | .wait nanos, session, _ => by
    rw [runStep]
    exact .ok rfl
  | .refresh, session, _ => by
    rw [runStep]
    exact .call path _ rfl fun _ _ => .ok rfl
  | .readText locator label, session, _ => by
    rw [runStep]
    exact .call path _ rfl fun found state => .readFirst _ _ _ _ _ rfl
  | .ifExists locator body, session, accepted => by
    rw [runStep]
    refine .call path _ rfl fun found state => ?_
    split
    · exact .ok rfl
    · exact runFrom_regular backend settings path 0 body { session with backend := state }
        (checkLoopFrom_of_ifExists accepted)
  | .forEachToken source body, session, accepted => by
    rw [runStep]
    refine .forTokens _ _ fun token before _ => ?_
    exact runFrom_regular backend settings path 0 body
      { before with bindings := token :: before.bindings } (checkLoopFrom_of_forEachToken accepted)

theorem runFrom_regular (backend : Backend σ) (settings : RunSettings) (parent : Path) (index : Nat) :
    (actions : List Action) → (session : Session σ) →
    checkLoopFrom session.binding?.isSome parent index actions = .ok () →
    Regular session.bindings (runFrom backend settings parent index actions session)
  | [], session, _ => by
    rw [runFrom_nil]
    exact .ok rfl
  | action :: rest, session, accepted => by
    obtain ⟨first, others⟩ := checkLoopFrom_cons_ok.mp accepted
    rw [runFrom_cons]
    refine (runStep_regular backend settings (parent.child index) action session first).andThen ?_
    intro middle kept
    -- the check passed under the bindings of the start, which are those of the middle
    rw [← kept]
    refine runFrom_regular backend settings parent (index + 1) rest middle ?_
    rwa [Session.binding?, kept]

end

/-- A script that passes the check fails in the backend only, and leaves no token bound. -/
theorem run_regular (backend : Backend σ) (settings : RunSettings) {script : List Action}
    (accepted : checkLoops script = .ok ()) {session : Session σ} (outside : session.bindings = []) :
    Regular [] (run backend settings script session) := by
  have entered : checkLoopFrom session.binding?.isSome .root 0 script = .ok () := by
    rw [Session.binding?, outside]
    exact accepted
  rw [run, accepted, ← outside]
  exact runFrom_regular backend settings .root 0 script session entered

end Execution

end Replay
