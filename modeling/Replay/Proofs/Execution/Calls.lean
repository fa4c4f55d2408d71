import Replay.Playbook
import Replay.Proofs.Execution.Sequence

namespace Replay

variable {σ α : Type}

namespace Backend

def perform (backend : Backend σ) (state : σ) : Call → σ
  | .navigate url => (backend.navigate url state).2
  | .click locator => (backend.click locator state).2
  | .clear locator => (backend.clear locator state).2
  | .sendKeys locator text => (backend.sendKeys locator text state).2
  | .refresh => (backend.refresh state).2
  | .find locator => (backend.find locator state).2
  | .textOf element => (backend.textOf ⟨element⟩ state).2
  | .pause nanos => backend.pause nanos state

def performAll (backend : Backend σ) (state : σ) (calls : List Call) : σ :=
  calls.foldl backend.perform state

def Reaches (backend : Backend σ) (before after : σ) : Prop :=
  ∃ calls, after = backend.performAll before calls

namespace Reaches

variable {backend : Backend σ} {first second third : σ}

theorem refl (state : σ) : backend.Reaches state state := ⟨[], rfl⟩

theorem single (call : Call) : backend.Reaches first (backend.perform first call) := ⟨[call], rfl⟩

theorem trans (start : backend.Reaches first second) (rest : backend.Reaches second third) :
    backend.Reaches first third := by
  obtain ⟨calls, rfl⟩ := start
  obtain ⟨others, rfl⟩ := rest
  exact ⟨calls ++ others, List.foldl_append.symm⟩

end Reaches

end Backend

namespace Execution

variable {backend : Backend σ} {session : Session σ}

theorem call_reaches (path : Path) {attempt : Attempt σ α} (made : Call)
    {proceed : α → Session σ → Outcome σ}
    (performed : (attempt session.backend).2 = backend.perform session.backend made)
    (next : ∀ answer state,
      backend.Reaches state (proceed answer { session with backend := state }).2.backend) :
    backend.Reaches session.backend (call path attempt session proceed).2.backend := by
  have reached : backend.Reaches session.backend (attempt session.backend).2 := by
    rw [performed]
    exact .single made
  rw [call]
  split
  · next answered =>
    rw [answered] at reached
    exact reached.trans (next _ _)
  · next failed =>
    rw [failed] at reached
    exact reached

theorem andThen_reaches {before : σ} {first : Outcome σ} {next : Session σ → Outcome σ}
    (start : backend.Reaches before first.2.backend)
    (rest : ∀ middle, backend.Reaches middle.backend (next middle).2.backend) :
    backend.Reaches before (first.andThen next).2.backend := by
  rcases first with ⟨_ | _, middle⟩
  · exact start
  · exact start.trans (rest middle)

theorem turn_reaches (delay : Nat) {body : Session σ → Outcome σ} (token : String)
    (inside : ∀ before, backend.Reaches before.backend (body before).2.backend) :
    backend.Reaches session.backend (turn backend delay body token session).2.backend := by
  have ran := inside { session with bindings := token :: session.bindings }
  rw [turn]
  rcases ended : body { session with bindings := token :: session.bindings } with ⟨_ | _, after⟩
  · rw [ended] at ran
    exact ran
  · rw [ended] at ran
    exact ran.trans (.single (.pause delay))

theorem forTokens_reaches (delay : Nat) {body : Session σ → Outcome σ} (tokens : List String)
    (inside : ∀ before, backend.Reaches before.backend (body before).2.backend) :
    backend.Reaches session.backend (forTokens backend delay body tokens session).2.backend := by
  induction tokens generalizing session with
  | nil => exact .refl _
  | cons token rest ih =>
    rw [forTokens_cons]
    exact andThen_reaches (turn_reaches delay token inside) fun middle => ih

theorem noteMissing_backend (policy : MissingText) (locator : String) (label : Option String) :
    (noteMissing policy locator label session).backend = session.backend := by
  cases policy with
  | skip => rfl
  | diagnostic =>
    rw [noteMissing]
    split <;> rfl

theorem readFirst_reaches (policy : MissingText) (path : Path) (locator : String)
    (label : Option String) (found : List Element) :
    backend.Reaches session.backend
      (readFirst backend policy path locator label found session).2.backend := by
  cases found with
  | nil =>
    rw [readFirst, noteMissing_backend]
    exact .refl _
  | cons element others =>
    rw [readFirst]
    exact call_reaches path (.textOf element.id) rfl fun text state => .refl _

mutual

theorem runStep_reaches (backend : Backend σ) (settings : RunSettings) (path : Path) :
    (action : Action) → (session : Session σ) →
    backend.Reaches session.backend (runStep backend settings path action session).2.backend
  | .navigate url, session => by
    rw [runStep]
    exact call_reaches path (.navigate (session.render url)) rfl fun _ _ => .refl _
  | .click locator, session => by
    rw [runStep]
    exact call_reaches path (.click (session.render locator)) rfl fun _ _ => .refl _
  | .clear locator, session => by
    rw [runStep]
    exact call_reaches path (.clear (session.render locator)) rfl fun _ _ => .refl _
  | .typeText locator text .literal, session => by
    rw [runStep]
    exact call_reaches path (.sendKeys _ _) rfl fun _ _ => .refl _
  | .typeText locator text .submit, session => by
    rw [runStep]
    exact call_reaches path (.sendKeys _ _) rfl fun _ _ => .refl _
  | .typeText locator text .loop, session => by
    cases bound : session.binding? with
    | none =>
      rw [runStep, bound]
      exact .refl _
    | some token =>
      rw [runStep, bound]
      exact call_reaches path (.sendKeys _ token) rfl fun _ _ => .refl _
  | .wait nanos, session => by
    rw [runStep]
    exact .single (.pause nanos)
  | .refresh, session => by
    rw [runStep]
    exact call_reaches path .refresh rfl fun _ _ => .refl _
  | .readText locator label, session => by
    rw [runStep]
    exact call_reaches path (.find (session.render locator)) rfl fun found state =>
      readFirst_reaches settings.missingText path _ _ found
  | .ifExists locator body, session => by
    rw [runStep]
    refine call_reaches path (.find (session.render locator)) rfl fun found state => ?_
    split
    · exact .refl _
    · exact runFrom_reaches backend settings path 0 body _
  | .forEachToken source body, session => by
    rw [runStep]
    exact forTokens_reaches _ _ fun before => runFrom_reaches backend settings path 0 body before

theorem runFrom_reaches (backend : Backend σ) (settings : RunSettings) (parent : Path) (index : Nat) :
    (actions : List Action) → (session : Session σ) →
    backend.Reaches session.backend (runFrom backend settings parent index actions session).2.backend
  | [], session => by
    rw [runFrom_nil]
    exact .refl _
  | action :: rest, session => by
    rw [runFrom_cons]
    exact andThen_reaches (runStep_reaches backend settings _ action session) fun middle =>
      runFrom_reaches backend settings parent (index + 1) rest middle

end

theorem run_reaches (backend : Backend σ) (settings : RunSettings) (script : List Action)
    (session : Session σ) :
    backend.Reaches session.backend (run backend settings script session).2.backend := by
  rw [run]
  split
  · exact .refl _
  · exact runFrom_reaches backend settings .root 0 script session

end Execution

namespace Playbook

theorem run_reaches (playbook : Playbook) (backend : Backend σ) (name key : String) (state : σ) :
    backend.Reaches state (playbook.run backend name key state).2 := by
  rw [run]
  split
  · exact .refl _
  · next script _ =>
    have ran := Execution.run_reaches backend playbook.settings script (.start state)
    split
    · next ended =>
      rw [ended] at ran
      exact ran
    · next ended =>
      rw [ended] at ran
      exact ran

theorem runAll_reaches (playbook : Playbook) (backend : Backend σ) (name : String)
    (keys : List String) (state : σ) :
    backend.Reaches state (playbook.runAll backend name keys state).2 := by
  induction keys generalizing state with
  | nil => exact .refl _
  | cons key rest ih =>
    have ran := playbook.run_reaches backend name key state
    rw [runAll]
    split
    · next ended =>
      rw [ended] at ran
      exact ran
    · next middle ended =>
      rw [ended] at ran
      have followed := ih middle
      split
      · next others =>
        rw [others] at followed
        exact ran.trans followed
      · next others =>
        rw [others] at followed
        exact ran.trans followed

end Playbook

end Replay
