import Replay.Execution

/-!
The equations of a run and of the check before it. A list goes by its head and then its tail, two lists
one after the other, and a loop by its turns. The first failure ends each of them.
-/

namespace Replay

variable {σ : Type}

def Outcome.andThen (first : Outcome σ) (next : Session σ → Outcome σ) : Outcome σ :=
  match first with
  | (.ok (), session) => next session
  | (.error error, session) => (.error error, session)

theorem Outcome.andThen_assoc (first : Outcome σ) (second third : Session σ → Outcome σ) :
    (first.andThen second).andThen third = first.andThen fun session =>
      (second session).andThen third := by
  rcases first with ⟨_ | _, session⟩
  · rfl
  · rfl

theorem Outcome.andThen_done (first : Outcome σ) : first.andThen (Execution.done ()) = first := by
  rcases first with ⟨_ | _, session⟩
  · rfl
  · rfl

namespace Execution

variable {backend : Backend σ} {settings : RunSettings}

def turn (backend : Backend σ) (delay : Nat) (body : Session σ → Outcome σ) (token : String)
    (session : Session σ) : Outcome σ :=
  match body { session with bindings := token :: session.bindings } with
  | (.ok (), after) =>
    (.ok (), { after with
      backend := backend.pause delay after.backend, bindings := after.bindings.tail })
  | (.error error, after) => (.error error, { after with bindings := after.bindings.tail })

theorem forTokens_cons (delay : Nat) (body : Session σ → Outcome σ) (token : String)
    (rest : List String) (session : Session σ) :
    forTokens backend delay body (token :: rest) session =
      (turn backend delay body token session).andThen (forTokens backend delay body rest) := by
  rw [forTokens, turn]
  rcases body { session with bindings := token :: session.bindings } with ⟨_ | _, after⟩
  · rfl
  · rfl

theorem runFrom_nil (parent : Path) (index : Nat) (session : Session σ) :
    runFrom backend settings parent index [] session = done () session := by
  rw [runFrom]
  rfl

theorem runFrom_cons (parent : Path) (index : Nat) (action : Action) (rest : List Action)
    (session : Session σ) :
    runFrom backend settings parent index (action :: rest) session =
      (runStep backend settings (parent.child index) action session).andThen
        (runFrom backend settings parent (index + 1) rest) := by
  rw [runFrom]
  rcases runStep backend settings (parent.child index) action session with ⟨_ | _, after⟩
  · rfl
  · rfl

theorem runFrom_singleton (parent : Path) (index : Nat) (action : Action) (session : Session σ) :
    runFrom backend settings parent index [action] session =
      runStep backend settings (parent.child index) action session := by
  have last : runFrom backend settings parent (index + 1) [] = done () :=
    funext (runFrom_nil parent (index + 1))
  rw [runFrom_cons, last, Outcome.andThen_done]

theorem runFrom_append (parent : Path) (index : Nat) (front back : List Action)
    (session : Session σ) :
    runFrom backend settings parent index (front ++ back) session =
      (runFrom backend settings parent index front session).andThen
        (runFrom backend settings parent (index + front.length) back) := by
  induction front generalizing index session with
  | nil =>
    rw [runFrom_nil]
    rfl
  | cons action front ih =>
    have shifted : index + (action :: front).length = index + 1 + front.length := by
      rw [List.length_cons]
      omega
    rw [List.cons_append, runFrom_cons, runFrom_cons, Outcome.andThen_assoc, shifted]
    exact congrArg (Outcome.andThen _) (funext (ih (index + 1)))

theorem noteMissing_rebound (policy : MissingText) (locator : String) (label : Option String)
    (session : Session σ) (bindings : List String) :
    noteMissing policy locator label { session with bindings := bindings } =
      { noteMissing policy locator label session with bindings := bindings } := by
  unfold noteMissing
  split
  · rfl
  · split
    · rfl
    · rfl

theorem noteMissing_bindings (policy : MissingText) (locator : String) (label : Option String)
    (session : Session σ) :
    (noteMissing policy locator label session).bindings = session.bindings := by
  have same := congrArg Session.bindings
    (noteMissing_rebound policy locator label session session.bindings)
  exact same

end Execution

section LoopCheck

variable {inLoop : Bool} {path parent : Path} {index : Nat} {action : Action} {rest : List Action}

theorem checkLoopFrom_cons_ok :
    checkLoopFrom inLoop parent index (action :: rest) = .ok () ↔
      action.checkLoop inLoop (parent.child index) = .ok () ∧
        checkLoopFrom inLoop parent (index + 1) rest = .ok () := by
  rw [checkLoopFrom]
  rcases action.checkLoop inLoop (parent.child index) with error | ⟨⟩
  · exact iff_of_false nofun fun both => nomatch both.1
  · exact ⟨fun accepted => ⟨rfl, accepted⟩, fun both => both.2⟩

theorem needsLoop_eq_false_of_checkLoop (accepted : action.checkLoop false path = .ok ()) :
    action.needsLoop = false := by
  rw [Action.checkLoop.eq_def] at accepted
  split at accepted
  · cases accepted
  · next fits => simpa using fits

theorem inLoop_of_checkLoop {locator text : String}
    (accepted : (Action.typeText locator text .loop).checkLoop inLoop path = .ok ()) :
    inLoop = true := by
  cases inLoop with
  | true => rfl
  | false => exact Bool.noConfusion (needsLoop_eq_false_of_checkLoop accepted)

theorem checkLoopFrom_of_ifExists {locator : String} {body : List Action}
    (accepted : (Action.ifExists locator body).checkLoop inLoop path = .ok ()) :
    checkLoopFrom inLoop path 0 body = .ok () := by
  rw [Action.checkLoop] at accepted
  split at accepted
  · cases accepted
  · exact accepted

theorem checkLoopFrom_of_forEachToken {source : String} {body : List Action}
    (accepted : (Action.forEachToken source body).checkLoop inLoop path = .ok ()) :
    checkLoopFrom true path 0 body = .ok () := by
  rw [Action.checkLoop] at accepted
  split at accepted
  · cases accepted
  · exact accepted

end LoopCheck

end Replay
