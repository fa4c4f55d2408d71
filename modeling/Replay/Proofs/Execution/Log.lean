import Replay.Execution
import Replay.Playbook

namespace Replay

variable {σ α : Type}

def Session.forgetLog (session : Session (σ × List Call)) : Session σ :=
  ⟨session.backend.1, session.texts, session.bindings⟩

def Outcome.forgetLog (outcome : Outcome (σ × List Call)) : Outcome σ :=
  (outcome.1, outcome.2.forgetLog)

namespace Execution

theorem call_forgetLog (path : Path) (made : Call) (attempt : Attempt σ α)
    {logged : α → Session (σ × List Call) → Outcome (σ × List Call)} {plain : α → Session σ → Outcome σ}
    (same : ∀ answer after, (logged answer after).forgetLog = plain answer after.forgetLog)
    (session : Session (σ × List Call)) :
    (call path (Backend.noting made attempt) session logged).forgetLog =
      call path attempt session.forgetLog plain := by
  rw [call, call, Backend.noting, Session.forgetLog]
  rcases attempt session.backend.1 with ⟨error | answer, after⟩
  · rfl
  · exact same answer _

theorem forTokens_forgetLog (backend : Backend σ) (delay : Nat)
    {logged : Session (σ × List Call) → Outcome (σ × List Call)} {plain : Session σ → Outcome σ}
    (same : ∀ session, (logged session).forgetLog = plain session.forgetLog) (tokens : List String)
    (session : Session (σ × List Call)) :
    (forTokens backend.logged delay logged tokens session).forgetLog =
      forTokens backend delay plain tokens session.forgetLog := by
  induction tokens generalizing session with
  | nil => rfl
  | cons token rest ih =>
    have turn := same { session with bindings := token :: session.bindings }
    rw [Session.forgetLog] at turn
    rw [forTokens, forTokens, Session.forgetLog, ← turn]
    rcases logged { session with bindings := token :: session.bindings } with ⟨_ | _, after⟩
    · rfl
    · exact ih _

theorem noteMissing_forgetLog (policy : MissingText) (locator : String) (label : Option String)
    (session : Session (σ × List Call)) :
    (noteMissing policy locator label session).forgetLog =
      noteMissing policy locator label session.forgetLog := by
  cases policy with
  | skip => rfl
  | diagnostic =>
    rw [noteMissing, noteMissing]
    cases label.or (quotedLabel locator) <;> rfl

theorem readFirst_forgetLog (backend : Backend σ) (policy : MissingText) (path : Path)
    (locator : String) (label : Option String) (found : List Element)
    (session : Session (σ × List Call)) :
    (readFirst backend.logged policy path locator label found session).forgetLog =
      readFirst backend policy path locator label found session.forgetLog := by
  cases found with
  | nil => exact congrArg (Prod.mk (Except.ok ())) (noteMissing_forgetLog policy locator label session)
  | cons element others =>
    rw [readFirst, readFirst]
    exact call_forgetLog path _ _ (fun _ _ => rfl) session

mutual

theorem runStep_forgetLog (backend : Backend σ) (settings : RunSettings) (path : Path) :
    (action : Action) → (session : Session (σ × List Call)) →
    (runStep backend.logged settings path action session).forgetLog =
      runStep backend settings path action session.forgetLog
  | .navigate _, session | .click _, session | .clear _, session | .refresh, session
  | .typeText _ _ .literal, session | .typeText _ _ .submit, session => by
    rw [runStep, runStep]
    exact call_forgetLog path _ _ (fun _ _ => rfl) session
  | .typeText locator text .loop, session => by
    rw [runStep, runStep]
    change Outcome.forgetLog (match session.binding? with | some token => _ | none => _) =
      match session.binding? with | some token => _ | none => _
    cases session.binding? with
    | none => rfl
    | some token => exact call_forgetLog path _ _ (fun _ _ => rfl) session
  | .wait nanos, session => by
    rw [runStep, runStep]
    rfl
  | .readText locator label, session => by
    rw [runStep, runStep]
    exact call_forgetLog path _ _ (readFirst_forgetLog backend _ path _ _) session
  | .ifExists locator body, session => by
    rw [runStep, runStep]
    refine call_forgetLog path _ _ (fun found after => ?_) session
    cases found with
    | nil => rfl
    | cons element others => exact runFrom_forgetLog backend settings path 0 body after
  | .forEachToken source body, session => by
    rw [runStep, runStep]
    exact forTokens_forgetLog backend _ (runFrom_forgetLog backend settings path 0 body) _ session

theorem runFrom_forgetLog (backend : Backend σ) (settings : RunSettings) (parent : Path)
    (index : Nat) : (actions : List Action) → (session : Session (σ × List Call)) →
    (runFrom backend.logged settings parent index actions session).forgetLog =
      runFrom backend settings parent index actions session.forgetLog
  | [], session => by
    rw [runFrom, runFrom]
    rfl
  | action :: rest, session => by
    have first := runStep_forgetLog backend settings (parent.child index) action session
    rw [runFrom, runFrom, ← first]
    rcases runStep backend.logged settings (parent.child index) action session with ⟨_ | _, after⟩
    · rfl
    · exact runFrom_forgetLog backend settings parent (index + 1) rest after

end

theorem run_forgetLog (backend : Backend σ) (settings : RunSettings) (script : List Action)
    (session : Session (σ × List Call)) :
    (run backend.logged settings script session).forgetLog =
      run backend settings script session.forgetLog := by
  rw [run, run]
  cases checkLoops script with
  | error error => rfl
  | ok _ => exact runFrom_forgetLog backend settings .root 0 script session

end Execution

/-- A playbook gives the same texts, and leaves the backend in the same state, with a log and without. -/
theorem Playbook.run_logged (playbook : Playbook) (backend : Backend σ) (name key : String)
    (state : σ × List Call) :
    playbook.run backend name key state.1 =
      ((playbook.run backend.logged name key state).1,
        (playbook.run backend.logged name key state).2.1) := by
  rw [run, run]
  cases playbook.load name key with
  | error error => rfl
  | ok script =>
    have same := Execution.run_forgetLog backend playbook.settings script (.start state)
    change _ = Execution.run backend playbook.settings script (.start state.1) at same
    dsimp only
    rw [← same]
    rcases Execution.run backend.logged playbook.settings script (.start state) with ⟨_ | _, after⟩ <;> rfl

end Replay
