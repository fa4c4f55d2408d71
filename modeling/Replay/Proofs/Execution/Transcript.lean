import Replay.Proofs.Execution.Calls

/-!
What a backend was asked and what it answered. A conversation goes by its calls alone: each answer and
each state follows from the state before it.
-/

namespace Replay

variable {σ α : Type}

inductive Answer
  | done
  | found (elements : List Element)
  | text (content : String)
  | failed (error : BackendError)
  deriving DecidableEq, Repr

namespace Answer

def isFailure : Answer → Bool
  | failed _ => true
  | _ => false

def ofResult (value : α → Answer) : Except BackendError α → Answer
  | .ok result => value result
  | .error error => failed error

end Answer

structure Exchange where
  call : Call
  answer : Answer
  deriving DecidableEq, Repr

namespace Backend

def answer (backend : Backend σ) (state : σ) : Call → Answer
  | .navigate url => .ofResult (fun _ => .done) (backend.navigate url state).1
  | .click locator => .ofResult (fun _ => .done) (backend.click locator state).1
  | .clear locator => .ofResult (fun _ => .done) (backend.clear locator state).1
  | .sendKeys locator text => .ofResult (fun _ => .done) (backend.sendKeys locator text state).1
  | .refresh => .ofResult (fun _ => .done) (backend.refresh state).1
  | .find locator => .ofResult .found (backend.find locator state).1
  | .textOf element => .ofResult .text (backend.textOf ⟨element⟩ state).1
  | .pause _ => .done

/-- The calls, made in order from the first state on, are answered so and lead to the last state. -/
inductive Conversation (backend : Backend σ) : σ → List Exchange → σ → Prop
  | nil {state : σ} : Conversation backend state [] state
  | cons {state final : σ} (call : Call) {rest : List Exchange} :
      Conversation backend (backend.perform state call) rest final →
      Conversation backend state (⟨call, backend.answer state call⟩ :: rest) final

namespace Conversation

variable {backend : Backend σ} {first second third : σ} {exchanges others : List Exchange}

theorem append (start : backend.Conversation first exchanges second)
    (rest : backend.Conversation second others third) :
    backend.Conversation first (exchanges ++ others) third := by
  induction start with
  | nil => exact rest
  | cons call _ ih => exact .cons call (ih rest)

theorem single (call : Call) :
    backend.Conversation first [⟨call, backend.answer first call⟩] (backend.perform first call) :=
  .cons call .nil

end Conversation

section Logged

variable (backend : Backend σ) (state : σ × List Call) (call : Call)

theorem logged_perform :
    backend.logged.perform state call = (backend.perform state.1 call, state.2 ++ [call]) := by
  cases call <;> rfl

theorem logged_answer : backend.logged.answer state call = backend.answer state.1 call := by
  cases call <;> rfl

end Logged

theorem Conversation.of_logged {backend : Backend σ} {first last : σ × List Call}
    {exchanges : List Exchange} (talk : backend.logged.Conversation first exchanges last) :
    last.2 = first.2 ++ exchanges.map Exchange.call ∧
      backend.Conversation first.1 exchanges last.1 := by
  induction talk with
  | nil => exact ⟨(List.append_nil _).symm, .nil⟩
  | @cons state final call rest _ ih =>
    rw [logged_perform] at ih
    obtain ⟨calls, talk⟩ := ih
    refine ⟨?_, ?_⟩
    · rw [calls, List.map_cons, List.append_assoc]
      rfl
    · rw [logged_answer]
      exact .cons call talk

end Backend

end Replay
