import Replay.Backend.Recording
import Replay.Proofs.Execution.Regular
import Replay.Proofs.Execution.Unroll
import Replay.Proofs.Parallel

namespace Replay

open Template

variable {σ α : Type}

/-- Two runs that differ in the bindings at most, and on failure in the path. -/
structure Flattens (bindings : List String) (nested flat : Outcome σ) : Prop where
  session : flat.2 = { nested.2 with bindings := bindings }
  verdict : Parallel (fun error error' => error.cause = error'.cause) Eq nested.1 flat.1

namespace Flattens

variable {bindings : List String} {session : Session σ} {nested flat : Outcome σ}
  {backend : Backend σ} {settings : RunSettings}

theorem ok (session : Session σ) :
    Flattens bindings (.ok (), session) (.ok (), { session with bindings := bindings }) :=
  ⟨rfl, rfl⟩

theorem call (path path' : Path) (attempt : Attempt σ α) {proceed proceed' : α → Session σ → Outcome σ}
    (next : ∀ answer state, Flattens bindings (proceed answer { session with backend := state })
      (proceed' answer { session with backend := state, bindings := bindings })) :
    Flattens bindings (Execution.call path attempt session proceed)
      (Execution.call path' attempt { session with bindings := bindings } proceed') := by
  rw [Execution.call, Execution.call]
  rcases attempt session.backend with ⟨error | answer, state⟩
  · exact ⟨rfl, rfl⟩
  · exact next answer state

theorem andThen {next next' : Session σ → Outcome σ} (first : Flattens bindings nested flat)
    (rest : ∀ middle, nested = (.ok (), middle) →
      Flattens bindings (next middle) (next' { middle with bindings := bindings })) :
    Flattens bindings (nested.andThen next) (flat.andThen next') := by
  rcases nested with ⟨verdict, middle⟩
  rcases flat with ⟨verdict', middle'⟩
  obtain rfl := first.session
  rcases first.verdict.cases with ⟨error, error', rfl, rfl, same⟩ | ⟨_, _, rfl, rfl, _⟩
  · exact ⟨rfl, same⟩
  · exact rest middle rfl

theorem readFirst (policy : MissingText) (path path' : Path) (locator : String)
    (label : Option String) (found : List Element) (session : Session σ) :
    Flattens bindings (Execution.readFirst backend policy path locator label found session)
      (Execution.readFirst backend policy path' locator label found
        { session with bindings := bindings }) := by
  cases found with
  | nil =>
    rw [Execution.readFirst, Execution.readFirst,
      Execution.noteMissing_rebound policy locator label session bindings]
    exact .ok _
  | cons element others =>
    rw [Execution.readFirst, Execution.readFirst]
    exact .call path path' _ fun text state => ⟨rfl, rfl⟩

theorem turn (delay : Nat) (parent : Path) (index : Nat) {body : Session σ → Outcome σ}
    {actions : List Action} {token : String}
    (inside : Flattens bindings (body { session with bindings := token :: session.bindings })
      (Execution.runFrom backend settings parent index actions
        { session with bindings := bindings })) :
    Flattens bindings (Execution.turn backend delay body token session)
      (Execution.runFrom backend settings parent index (actions ++ [.wait delay])
        { session with bindings := bindings }) := by
  rw [Execution.runFrom_append, Execution.turn]
  rcases ended : body { session with bindings := token :: session.bindings } with ⟨verdict, after⟩
  rcases ended' : Execution.runFrom backend settings parent index actions
    { session with bindings := bindings } with ⟨verdict', after'⟩
  rw [ended, ended'] at inside
  obtain rfl := inside.session
  rcases inside.verdict.cases with ⟨error, error', rfl, rfl, same⟩ | ⟨_, _, rfl, rfl, _⟩
  · exact ⟨rfl, same⟩
  · rw [Outcome.andThen, Execution.runFrom_singleton, Execution.runStep]
    exact ⟨rfl, rfl⟩

theorem forTokens (delay : Nat) (parent : Path) {body : Session σ → Outcome σ}
    {actions : String → List Action} (tokens : List String) (index : Nat) (session : Session σ)
    (inside : ∀ (token : String) (index : Nat) (before : Session σ),
      Flattens bindings (body { before with bindings := token :: before.bindings })
        (Execution.runFrom backend settings parent index (actions token)
          { before with bindings := bindings })) :
    Flattens bindings (Execution.forTokens backend delay body tokens session)
      (Execution.runFrom backend settings parent index
        (tokens.flatMap fun token => actions token ++ [.wait delay])
        { session with bindings := bindings }) := by
  induction tokens generalizing index session with
  | nil =>
    rw [List.flatMap_nil, Execution.runFrom_nil]
    exact .ok session
  | cons token rest ih =>
    rw [List.flatMap_cons, Execution.forTokens_cons, Execution.runFrom_append]
    refine (Flattens.turn delay parent index (inside token index session)).andThen ?_
    intro middle _
    exact ih _ middle

end Flattens

namespace Execution

variable {bindings : List String}

theorem render_settled (session flat : Session σ) (template : String) :
    flat.render (settle session.binding? template) = session.render template :=
  render_settle session.binding? flat.binding? template

theorem render_settled_token (session : Session σ) (token : String) :
    session.render (literal token) = token :=
  render_literal session.binding? token

mutual

theorem runStep_flattens (backend : Backend σ) (settings : RunSettings) (path parent : Path)
    (index : Nat) : (action : Action) → (session : Session σ) →
    action.checkLoop session.binding?.isSome path = .ok () →
    Flattens bindings (runStep backend settings path action session)
      (runFrom backend settings parent index
        (action.unroll (Duration.ofMillis settings.loopDelayMillis) session.binding?)
        { session with bindings := bindings })
  | .navigate url, session, _ => by
    rw [Action.unroll, runFrom_singleton, runStep, runStep, render_settled]
    exact .call _ _ _ fun _ _ => ⟨rfl, rfl⟩
  | .click locator, session, _ => by
    rw [Action.unroll, runFrom_singleton, runStep, runStep, render_settled]
    exact .call _ _ _ fun _ _ => ⟨rfl, rfl⟩
  | .clear locator, session, _ => by
    rw [Action.unroll, runFrom_singleton, runStep, runStep, render_settled]
    exact .call _ _ _ fun _ _ => ⟨rfl, rfl⟩
  | .typeText locator text .literal, session, _ => by
    rw [Action.unroll, runFrom_singleton, unrollTyping, runStep, runStep, render_settled,
      render_settled]
    · exact .call _ _ _ fun _ _ => ⟨rfl, rfl⟩
    · exact nofun
  | .typeText locator text .submit, session, _ => by
    rw [Action.unroll, runFrom_singleton, unrollTyping, runStep, runStep, render_settled,
      render_settled]
    · exact .call _ _ _ fun _ _ => ⟨rfl, rfl⟩
    · exact nofun
  | .typeText locator text .loop, session, accepted => by
    obtain ⟨token, bound⟩ := Option.isSome_iff_exists.mp (inLoop_of_checkLoop accepted)
    rw [bound, Action.unroll, runFrom_singleton, unrollTyping, runStep, runStep, ← bound,
      render_settled, render_settled_token, bound]
    exact .call _ _ _ fun _ _ => ⟨rfl, rfl⟩
  | .wait nanos, session, _ => by
    rw [Action.unroll, runFrom_singleton, runStep, runStep]
    exact ⟨rfl, rfl⟩
  | .refresh, session, _ => by
    rw [Action.unroll, runFrom_singleton, runStep, runStep]
    exact .call _ _ _ fun _ _ => ⟨rfl, rfl⟩
  | .readText locator label, session, _ => by
    have labels : (label.map (settle session.binding?)).map
        { session with bindings := bindings }.render = label.map session.render := by
      rw [Option.map_map]
      exact congrArg (Option.map · label) (funext (render_settled session _))
    rw [Action.unroll, runFrom_singleton, runStep, runStep, render_settled, labels]
    exact .call _ _ _ fun found state => .readFirst _ _ _ _ _ found { session with backend := state }
  | .ifExists locator body, session, accepted => by
    rw [Action.unroll, runFrom_singleton, runStep, runStep, render_settled]
    refine .call _ _ _ fun found state => ?_
    split
    · exact ⟨rfl, rfl⟩
    · exact runFrom_flattens backend settings path _ 0 0 body { session with backend := state }
        (checkLoopFrom_of_ifExists accepted)
  | .forEachToken source body, session, accepted => by
    rw [Action.unroll, runStep]
    -- the loops around do not matter to the body: its texts take the token of this loop
    refine .forTokens _ parent _ index session fun token index before => ?_
    exact runFrom_flattens backend settings path parent 0 index body
      { before with bindings := token :: before.bindings } (checkLoopFrom_of_forEachToken accepted)

theorem runFrom_flattens (backend : Backend σ) (settings : RunSettings) (parent parent' : Path)
    (index index' : Nat) : (actions : List Action) → (session : Session σ) →
    checkLoopFrom session.binding?.isSome parent index actions = .ok () →
    Flattens bindings (runFrom backend settings parent index actions session)
      (runFrom backend settings parent' index'
        (unrollAll (Duration.ofMillis settings.loopDelayMillis) session.binding? actions)
        { session with bindings := bindings })
  | [], session, _ => by
    rw [unrollAll, runFrom_nil, runFrom_nil]
    exact ⟨rfl, rfl⟩
  | action :: rest, session, accepted => by
    obtain ⟨first, others⟩ := checkLoopFrom_cons_ok.mp accepted
    rw [unrollAll, runFrom_cons, runFrom_append]
    refine (runStep_flattens backend settings (parent.child index) parent' index' action session
      first).andThen fun middle ended => ?_
    -- the step leaves the bindings, so the rest was unrolled under the token that it now runs under
    have kept := (runStep_regular backend settings (parent.child index) action session first).bindings
    rw [ended] at kept
    have bound : session.binding? = middle.binding? := congrArg List.head? kept.symm
    rw [bound]
    exact runFrom_flattens backend settings parent parent' (index + 1) _ rest middle (bound ▸ others)

end

/-- Unrolling the loops of an accepted script changes nothing that a backend can tell. The same calls
are made in the same order, the same texts are read, and the run ends well, or with the same failure of
the backend; only the path of the failure may differ. -/
theorem run_unrollAll (backend : Backend σ) (settings : RunSettings) {script : List Action}
    (accepted : checkLoops script = .ok ()) (state : σ) (calls : List Call) (texts : List String) :
    let unrolled := unrollAll (Duration.ofMillis settings.loopDelayMillis) none script
    let nested := run backend.logged settings script ⟨(state, calls), texts, []⟩
    let flat := run backend.logged settings unrolled ⟨(state, calls), texts, []⟩
    loopFreeAll unrolled = true ∧ flat.2 = nested.2 ∧
      Parallel
        (fun error error' => error.cause = error'.cause ∧ ∃ answer, error.cause = .backend answer)
        Eq nested.1 flat.1 := by
  intro unrolled nested flat
  have free : loopFreeAll unrolled = true := loopFreeAll_unrollAll _ none .root 0 script accepted
  have acceptedFlat : checkLoops unrolled = .ok () := checkLoopFrom_of_loopFree _ _ _ unrolled free
  have regular : Regular [] nested := run_regular backend.logged settings accepted rfl
  have sides : Flattens [] nested flat := by
    simp only [nested, flat, run, accepted, acceptedFlat]
    exact runFrom_flattens backend.logged settings .root .root 0 0 script ⟨(state, calls), texts, []⟩
      accepted
  refine ⟨free, ?_, ?_⟩
  · rw [sides.session, ← regular.bindings]
  · rcases sides.verdict.cases with ⟨error, error', first, second, same⟩ | ⟨_, _, first, second, _⟩
    · rw [first, second]
      exact ⟨same, regular.failure error first⟩
    · rw [first, second]
      rfl

def nestedLoops : List Action :=
  [.forEachToken "$, b" [.forEachToken "$\x7bloop\x7d$$x, y" [.typeText "#$\x7bloop\x7d" "" .loop]]]

def twoFields : Recording := (Recording.empty.addElement "#$$x" "").addElement "#y" ""

/-- Dollars in the outer tokens reach the inner ones as they are, and the run ends in the middle of the
second turn. -/
theorem run_unrollAll_nestedLoops :
    checkLoops nestedLoops = .ok () ∧
    (run Recording.backend.logged {} nestedLoops ⟨(twoFields, []), ["earlier"], []⟩).2.backend.2 =
      [.sendKeys "#$$x" "$$x", .pause 1000000000, .sendKeys "#y" "y", .pause 1000000000,
        .pause 1000000000, .sendKeys "#b$x" "b$x"] ∧
    (run Recording.backend.logged {} (unrollAll 1000000000 none nestedLoops)
        ⟨(twoFields, []), ["earlier"], []⟩).2 =
      (run Recording.backend.logged {} nestedLoops ⟨(twoFields, []), ["earlier"], []⟩).2 := by
  have accepted : checkLoops nestedLoops = .ok () := by rfl
  refine ⟨accepted, by decide +kernel, ?_⟩
  exact (run_unrollAll Recording.backend {} accepted twoFields [] ["earlier"]).2.1

end Execution

end Replay
