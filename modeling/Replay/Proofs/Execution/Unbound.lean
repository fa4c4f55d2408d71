import Mathlib.Data.List.Lex
import Replay.Proofs.Execution.Failure
import Replay.Proofs.Execution.Regular

namespace Replay

variable {σ α : Type}

/-- The action itself, its body left aside, types the token of a loop or holds its placeholder. -/
def Action.UsesToken (action : Action) : Prop :=
  (∃ locator text, action = .typeText locator text .loop) ∨
    ∃ text ∈ action.ownTexts, Template.mentionsLoop text = true

theorem Action.needsLoop_iff (action : Action) : action.needsLoop = true ↔ action.UsesToken := by
  have mentioned : action.ownTexts.any Template.mentionsLoop = true ↔
      ∃ text ∈ action.ownTexts, Template.mentionsLoop text = true := List.any_eq_true
  unfold needsLoop
  rw [Bool.or_eq_true, mentioned, UsesToken]
  apply or_congr_left
  constructor
  · intro typed
    split at typed
    · next locator text => exact ⟨locator, text, rfl⟩
    · cases typed
  · rintro ⟨locator, text, rfl⟩
    rfl

structure UnboundAt (find : List Nat → Option Action) (indices : List Nat) : Prop where
  uses : ∃ action, find indices = some action ∧ action.UsesToken
  outside : ∀ front back, indices = front ++ back → back ≠ [] →
    ∀ source body, find front ≠ some (.forEachToken source body)

/-- The action of the script at the path uses a token, and none of the actions around it is a loop. -/
def Path.Unbound (script : List Action) (path : Path) : Prop :=
  UnboundAt (descendantAmong? script) path.indices

/-- Document order: an action stands before those that it holds, and before everything behind it. -/
def Path.Before (path other : Path) : Prop := List.Lex (· < ·) path.indices other.indices

theorem Path.Before.asymm {path other : Path} (before : path.Before other) : ¬ other.Before path :=
  (List.Lex.asymm (· < ·)).asymm path.indices other.indices before

section Places

variable {action : Action} {actions rest : List Action} {index : Nat} {below indices : List Nat}

theorem unboundAt_nil : UnboundAt action.descendant? [] ↔ action.UsesToken := by
  constructor
  · rintro ⟨⟨found, here, uses⟩, -⟩
    obtain rfl : action = found := Option.some.inj here
    exact uses
  · intro uses
    refine ⟨⟨action, rfl, uses⟩, ?_⟩
    intro front back split nonempty
    exact absurd (List.append_eq_nil_iff.mp split.symm).2 nonempty

theorem not_unboundAt_among_nil : ¬ UnboundAt (descendantAmong? actions) [] := by
  rintro ⟨⟨found, here, -⟩, -⟩
  cases here

theorem unboundAt_among_cons :
    UnboundAt (descendantAmong? actions) (index :: below) ↔
      ∃ action, actions[index]? = some action ∧ UnboundAt action.descendant? below := by
  have step : ∀ {action}, actions[index]? = some action → ∀ indices,
      descendantAmong? actions (index :: indices) = action.descendant? indices := by
    intro action placed indices
    rw [descendantAmong?, placed, Option.bind_some]
  constructor
  · rintro ⟨⟨found, here, uses⟩, outside⟩
    obtain ⟨action, placed, here⟩ := Option.bind_eq_some_iff.mp here
    refine ⟨action, placed, ⟨found, here, uses⟩, ?_⟩
    intro front back split nonempty source body
    rw [← step placed]
    exact outside (index :: front) back (congrArg (index :: ·) split) nonempty source body
  · rintro ⟨action, placed, ⟨found, here, uses⟩, outside⟩
    refine ⟨⟨found, (step placed below).trans here, uses⟩, ?_⟩
    intro front back split nonempty source body
    cases front with
    | nil =>
      intro found
      cases found
    | cons first front =>
      obtain ⟨rfl, tails⟩ := List.cons.inj split
      rw [step placed]
      exact outside front back tails nonempty source body

theorem unboundAt_cons :
    UnboundAt action.descendant? (index :: below) ↔
      (∀ source body, action ≠ .forEachToken source body) ∧
        UnboundAt (descendantAmong? action.body) (index :: below) := by
  constructor
  · rintro ⟨uses, outside⟩
    constructor
    · intro source body loop
      exact outside [] (index :: below) rfl (List.cons_ne_nil _ _) source body (congrArg some loop)
    · refine ⟨uses, ?_⟩
      intro front back split nonempty source body
      cases front with
      | nil =>
        intro found
        cases found
      | cons first front => exact outside (first :: front) back split nonempty source body
  · rintro ⟨noLoop, uses, outside⟩
    refine ⟨uses, ?_⟩
    intro front back split nonempty source body
    cases front with
    | nil => exact fun here => noLoop source body (Option.some.inj here)
    | cons first front => exact outside (first :: front) back split nonempty source body

def UnboundFrom (index : Nat) (actions : List Action) (indices : List Nat) : Prop :=
  ∃ offset action below, actions[offset]? = some action ∧ indices = (index + offset) :: below ∧
    UnboundAt action.descendant? below

theorem unboundFrom_zero :
    UnboundFrom 0 actions indices ↔ UnboundAt (descendantAmong? actions) indices := by
  constructor
  · rintro ⟨offset, action, below, placed, rfl, unbound⟩
    rw [Nat.zero_add]
    exact unboundAt_among_cons.mpr ⟨action, placed, unbound⟩
  · intro unbound
    cases indices with
    | nil => exact absurd unbound not_unboundAt_among_nil
    | cons index below =>
      obtain ⟨action, placed, unbound⟩ := unboundAt_among_cons.mp unbound
      exact ⟨index, action, below, placed, by rw [Nat.zero_add], unbound⟩

theorem not_unboundFrom_nil : ¬ UnboundFrom index [] indices := by
  rintro ⟨offset, action, below, placed, -⟩
  cases placed

theorem unboundFrom_cons :
    UnboundFrom index (action :: rest) indices ↔
      (∃ below, indices = index :: below ∧ UnboundAt action.descendant? below) ∨
        UnboundFrom (index + 1) rest indices := by
  constructor
  · rintro ⟨offset, found, below, placed, rfl, unbound⟩
    cases offset with
    | zero =>
      obtain rfl : action = found := Option.some.inj placed
      exact .inl ⟨below, rfl, unbound⟩
    | succ offset => exact .inr ⟨offset, found, below, placed, by rw [Nat.add_right_comm]; rfl, unbound⟩
  · rintro (⟨below, rfl, unbound⟩ | ⟨offset, found, below, placed, rfl, unbound⟩)
    · exact ⟨0, action, below, rfl, rfl, unbound⟩
    · exact ⟨offset + 1, found, below, placed, by rw [Nat.add_right_comm]; rfl, unbound⟩

end Places

/-- The verdict on what lies below the base, some of whose places lack a token: none does, or the error
names the first of them. -/
def Judges (base : Path) (lacking : List Nat → Prop) : Except ScriptError Unit → Prop
  | .ok _ => ∀ indices, ¬ lacking indices
  | .error error => ∃ first, error = ⟨⟨base.indices ++ first⟩, .unboundLoop⟩ ∧ lacking first ∧
      ∀ indices, lacking indices → indices = first ∨ List.Lex (· < ·) first indices

namespace Judges

variable {base : Path} {lacking others : List Nat → Prop} {verdict further : Except ScriptError Unit}

theorem congr (judged : Judges base lacking verdict) (same : ∀ indices, lacking indices ↔ others indices) :
    Judges base others verdict := by
  obtain rfl : lacking = others := funext fun indices => propext (same indices)
  exact judged

theorem cons {index : Nat} {action : Action} {rest : List Action}
    (first : Judges (base.child index) (UnboundAt action.descendant?) verdict)
    (more : Judges base (UnboundFrom (index + 1) rest) further) :
    Judges base (UnboundFrom index (action :: rest)) (verdict >>= fun _ => further) := by
  have later : ∀ below indices, UnboundFrom (index + 1) rest indices →
      List.Lex (· < ·) (index :: below) indices := by
    rintro below _ ⟨offset, found, lower, placed, rfl, unbound⟩
    exact .rel (by omega)
  cases verdict with
  | error error =>
    obtain ⟨below, rfl, unbound, least⟩ := first
    refine ⟨index :: below, ?_, unboundFrom_cons.mpr (.inl ⟨below, rfl, unbound⟩), ?_⟩
    · rw [Path.child, List.append_assoc, List.singleton_append]
    · intro indices lacks
      rcases unboundFrom_cons.mp lacks with ⟨lower, rfl, unbound⟩ | unbound
      · exact (least lower unbound).imp (congrArg (index :: ·)) .cons
      · exact .inr (later below indices unbound)
  | ok _ =>
    have onlyRest : ∀ indices, UnboundFrom (index + 1) rest indices ↔
        UnboundFrom index (action :: rest) indices := by
      intro indices
      rw [unboundFrom_cons]
      constructor
      · exact .inr
      · rintro (⟨below, -, unbound⟩ | unbound)
        · exact absurd unbound (first below)
        · exact unbound
    exact more.congr onlyRest

theorem guarded {action : Action}
    (onward : ¬ action.UsesToken → Judges base (UnboundAt action.descendant?) verdict) :
    Judges base (UnboundAt action.descendant?)
      (if !false && action.needsLoop then .error ⟨base, .unboundLoop⟩ else verdict) := by
  rw [Bool.not_false, Bool.true_and]
  split
  · next needs =>
    refine ⟨[], by rw [List.append_nil], unboundAt_nil.mpr (action.needsLoop_iff.mp needs), ?_⟩
    intro indices _
    cases indices with
    | nil => exact .inl rfl
    | cons index below => exact .inr .nil
  · next spare => exact onward fun uses => spare (action.needsLoop_iff.mpr uses)

theorem of_body {action : Action} (spare : ¬ action.UsesToken)
    (noLoop : ∀ source body, action ≠ .forEachToken source body)
    (inside : Judges base (UnboundFrom 0 action.body) verdict) :
    Judges base (UnboundAt action.descendant?) verdict := by
  apply inside.congr
  intro indices
  rw [unboundFrom_zero]
  cases indices with
  | nil => exact iff_of_false not_unboundAt_among_nil fun unbound => spare (unboundAt_nil.mp unbound)
  | cons index below => rw [unboundAt_cons, and_iff_right noLoop]

theorem of_loop {source : String} {body : List Action}
    (spare : ¬ (Action.forEachToken source body).UsesToken) :
    Judges base (UnboundAt (Action.forEachToken source body).descendant?) (.ok ()) := by
  intro indices unbound
  cases indices with
  | nil => exact spare (unboundAt_nil.mp unbound)
  | cons index below => exact (unboundAt_cons.mp unbound).1 source body rfl

theorem nil {index : Nat} : Judges base (UnboundFrom index []) (.ok ()) :=
  fun _ => not_unboundFrom_nil

end Judges

mutual

theorem checkLoop_inside (path : Path) :
    (action : Action) → action.checkLoop true path = .ok ()
  | .ifExists locator body => by
    rw [Action.checkLoop]
    exact checkLoopFrom_inside path 0 body
  | .forEachToken source body => by
    rw [Action.checkLoop]
    exact checkLoopFrom_inside path 0 body
  | .navigate _ | .click _ | .clear _ | .typeText _ _ _ | .wait _ | .refresh | .readText _ _ => by
    rw [Action.checkLoop.eq_def]
    rfl

theorem checkLoopFrom_inside (parent : Path) (index : Nat) :
    (actions : List Action) → checkLoopFrom true parent index actions = .ok ()
  | [] => rfl
  | action :: rest => checkLoopFrom_cons_ok.mpr
    ⟨checkLoop_inside (parent.child index) action, checkLoopFrom_inside parent (index + 1) rest⟩

end

mutual

theorem checkLoop_judges (path : Path) : (action : Action) →
    Judges path (UnboundAt action.descendant?) (action.checkLoop false path)
  | .ifExists locator body => by
    rw [Action.checkLoop]
    apply Judges.guarded
    intro spare
    exact .of_body spare (fun _ _ loop => nomatch loop) (checkLoopFrom_judges path 0 body)
  | .forEachToken source body => by
    rw [Action.checkLoop, checkLoopFrom_inside]
    exact .guarded .of_loop
  | .navigate _ | .click _ | .clear _ | .typeText _ _ _ | .wait _ | .refresh | .readText _ _ => by
    rw [Action.checkLoop.eq_def]
    apply Judges.guarded
    intro spare
    exact .of_body spare (fun _ _ loop => nomatch loop) .nil

theorem checkLoopFrom_judges (parent : Path) (index : Nat) : (actions : List Action) →
    Judges parent (UnboundFrom index actions) (checkLoopFrom false parent index actions)
  | [] => .nil
  | action :: rest => by
    rw [checkLoopFrom]
    exact .cons (checkLoop_judges (parent.child index) action)
      (checkLoopFrom_judges parent (index + 1) rest)

end

theorem checkLoops_judges (script : List Action) :
    Judges .root (UnboundAt (descendantAmong? script)) (checkLoops script) :=
  (checkLoopFrom_judges .root 0 script).congr fun _ => unboundFrom_zero

namespace Execution

variable {backend : Backend σ} {settings : RunSettings}

mutual

def runStepGuarded (backend : Backend σ) (settings : RunSettings) (path : Path) (action : Action)
    (session : Session σ) : Outcome σ :=
  if session.binding? = none ∧ action.needsLoop = true then (.error ⟨path, .unboundLoop⟩, session)
  else
    match action with
    | .ifExists locator body =>
      call path (backend.find (session.render locator)) session fun found session =>
        if found = [] then (.ok (), session)
        else runFromGuarded backend settings path 0 body session
    | .forEachToken source body =>
      forTokens backend (Duration.ofMillis settings.loopDelayMillis)
        (fun session => runFromGuarded backend settings path 0 body session)
        (loopTokens (session.render source)) session
    | action => runStep backend settings path action session

def runFromGuarded (backend : Backend σ) (settings : RunSettings) (parent : Path) (index : Nat)
    (actions : List Action) (session : Session σ) : Outcome σ :=
  match actions with
  | [] => (.ok (), session)
  | action :: rest =>
    (runStepGuarded backend settings (parent.child index) action session).andThen
      (runFromGuarded backend settings parent (index + 1) rest)

end

/-- A run that renders no placeholder, and types no token, while none is bound. It stops instead. -/
def runGuarded (backend : Backend σ) (settings : RunSettings) (script : List Action)
    (session : Session σ) : Outcome σ :=
  runFromGuarded backend settings .root 0 script session

theorem forTokens_congr (delay : Nat) {body other : Session σ → Outcome σ}
    (same : ∀ (token : String) (before : Session σ),
      body { before with bindings := token :: before.bindings } =
        other { before with bindings := token :: before.bindings })
    (tokens : List String) (session : Session σ) :
    forTokens backend delay body tokens session = forTokens backend delay other tokens session := by
  induction tokens generalizing session with
  | nil => rfl
  | cons token rest ih =>
    have turned : turn backend delay body token session = turn backend delay other token session := by
      rw [turn, turn, same]
    rw [forTokens_cons, forTokens_cons, turned]
    exact congrArg (Outcome.andThen _) (funext ih)

theorem call_congr (path : Path) (attempt : Attempt σ α) (session : Session σ)
    {proceed other : α → Session σ → Outcome σ}
    (same : ∀ answer state, proceed answer { session with backend := state } =
      other answer { session with backend := state }) :
    call path attempt session proceed = call path attempt session other := by
  rw [call, call]
  split
  · exact same _ _
  · rfl

/-- The check, made outside loops unless a token is bound, lets no action through that lacks one. -/
theorem not_lacking_of_checkLoop {action : Action} {path : Path} {session : Session σ}
    (accepted : action.checkLoop session.binding?.isSome path = .ok ()) :
    ¬ (session.binding? = none ∧ action.needsLoop = true) := by
  rintro ⟨unbound, needs⟩
  rw [unbound] at accepted
  exact absurd needs (Bool.eq_false_iff.mp (needsLoop_eq_false_of_checkLoop accepted))

mutual

theorem runStepGuarded_eq (backend : Backend σ) (settings : RunSettings) (path : Path) :
    (action : Action) → (session : Session σ) →
    action.checkLoop session.binding?.isSome path = .ok () →
    runStepGuarded backend settings path action session =
      runStep backend settings path action session
  | .ifExists locator body, session, accepted => by
    rw [runStepGuarded, if_neg (not_lacking_of_checkLoop accepted), runStep]
    apply call_congr
    intro found state
    split
    · rfl
    · exact runFromGuarded_eq backend settings path 0 body { session with backend := state }
        (checkLoopFrom_of_ifExists accepted)
  | .forEachToken source body, session, accepted => by
    rw [runStepGuarded, if_neg (not_lacking_of_checkLoop accepted), runStep]
    apply forTokens_congr
    intro token before
    exact runFromGuarded_eq backend settings path 0 body
      { before with bindings := token :: before.bindings } (checkLoopFrom_inside path 0 body)
  | .navigate _, session, accepted | .click _, session, accepted | .clear _, session, accepted
  | .typeText _ _ _, session, accepted | .wait _, session, accepted | .refresh, session, accepted
  | .readText _ _, session, accepted => by
    rw [runStepGuarded.eq_def, if_neg (not_lacking_of_checkLoop accepted)]

theorem runFromGuarded_eq (backend : Backend σ) (settings : RunSettings) (parent : Path)
    (index : Nat) : (actions : List Action) → (session : Session σ) →
    checkLoopFrom session.binding?.isSome parent index actions = .ok () →
    runFromGuarded backend settings parent index actions session =
      runFrom backend settings parent index actions session
  | [], session, _ => by
    rw [runFromGuarded, runFrom_nil]
    rfl
  | action :: rest, session, accepted => by
    obtain ⟨first, others⟩ := checkLoopFrom_cons_ok.mp accepted
    have kept := (runStep_regular backend settings (parent.child index) action session first).bindings
    rw [runFromGuarded, runFrom_cons,
      runStepGuarded_eq backend settings (parent.child index) action session first]
    rcases ended : runStep backend settings (parent.child index) action session with
      ⟨error | ⟨⟩, middle⟩
    · rfl
    · rw [ended] at kept
      -- the step leaves the bindings under which the rest was accepted
      have same : middle.bindings = session.bindings := kept
      apply runFromGuarded_eq backend settings parent (index + 1) rest middle
      rwa [Session.binding?, same]

end

end Execution

theorem checkLoops_eq_ok_iff (script : List Action) :
    checkLoops script = .ok () ↔ ∀ path : Path, ¬ path.Unbound script := by
  have judged := checkLoops_judges script
  rcases verdict : checkLoops script with error | ⟨⟩
  · rw [verdict] at judged
    obtain ⟨first, -, lacks, -⟩ := judged
    constructor
    · intro accepted
      cases accepted
    · intro nowhere
      exact absurd lacks (nowhere ⟨first⟩)
  · rw [verdict] at judged
    exact iff_of_true rfl fun path => judged path.indices

theorem checkLoops_eq_error_iff (script : List Action) (error : ScriptError) :
    checkLoops script = .error error ↔
      error.cause = .unboundLoop ∧ error.path.Unbound script ∧
        ∀ path : Path, path.Unbound script → path = error.path ∨ error.path.Before path := by
  have judged := checkLoops_judges script
  rcases verdict : checkLoops script with found | ⟨⟩
  · rw [verdict] at judged
    obtain ⟨first, rfl, lacks, least⟩ := judged
    have leads : ∀ path : Path, path.Unbound script → path = ⟨first⟩ ∨ Path.Before ⟨first⟩ path := by
      intro path unbound
      exact (least path.indices unbound).imp_left (congrArg Path.mk)
    constructor
    · intro same
      obtain rfl := Except.error.inj same
      exact ⟨rfl, lacks, leads⟩
    · rintro ⟨cause, unbound, firstOf⟩
      -- each of the two places is at or before the other
      have same : error.path = ⟨first⟩ := by
        rcases leads error.path unbound with same | before
        · exact same
        · rcases firstOf ⟨first⟩ lacks with same | after
          · exact same.symm
          · exact absurd after before.asymm
      change Except.error ⟨⟨first⟩, .unboundLoop⟩ = Except.error error
      rw [← same, ← cause]
  · rw [verdict] at judged
    constructor
    · intro accepted
      cases accepted
    · rintro ⟨-, unbound, -⟩
      exact absurd unbound (judged error.path.indices)

namespace Execution

theorem checkLoopFrom_of_checkLoops {script : List Action} (accepted : checkLoops script = .ok ())
    (session : Session σ) : checkLoopFrom session.binding?.isSome .root 0 script = .ok () := by
  cases session.binding?.isSome with
  | false => exact accepted
  | true => exact checkLoopFrom_inside .root 0 script

theorem run_of_accepted (backend : Backend σ) (settings : RunSettings) {script : List Action}
    (accepted : checkLoops script = .ok ()) (session : Session σ) :
    run backend settings script session = runFrom backend settings .root 0 script session := by
  rw [run, accepted]

theorem runGuarded_eq (backend : Backend σ) (settings : RunSettings) {script : List Action}
    (accepted : checkLoops script = .ok ()) (session : Session σ) :
    runGuarded backend settings script session = run backend settings script session := by
  rw [run_of_accepted backend settings accepted]
  exact runFromGuarded_eq backend settings .root 0 script session
    (checkLoopFrom_of_checkLoops accepted session)

theorem cause_ne_unboundLoop (backend : Backend σ) (settings : RunSettings) {script : List Action}
    (accepted : checkLoops script = .ok ()) (session : Session σ) {error : ScriptError}
    (failed : (run backend settings script session).1 = .error error) :
    error.cause ≠ .unboundLoop := by
  intro unbound
  rw [run_of_accepted backend settings accepted] at failed
  have regular := runFrom_regular backend settings .root 0 script session
    (checkLoopFrom_of_checkLoops accepted session)
  obtain ⟨answer, caused⟩ := regular.failure error failed
  cases unbound.symm.trans caused

/-- The check is sound and complete. It accepts a script unless some action outside every loop uses the
token of one, and its error names the first such action in document order. An accepted script, run on
any backend from any session, never stops for want of a token, and its actions use one only while one is
bound. A rejected script ends with the same error, before any call. -/
theorem checkLoops_exact (script : List Action) :
    (checkLoops script = .ok () ↔ ∀ path : Path, ¬ path.Unbound script) ∧
    (∀ error, checkLoops script = .error error ↔
      error.cause = .unboundLoop ∧ error.path.Unbound script ∧
        ∀ path : Path, path.Unbound script → path = error.path ∨ error.path.Before path) ∧
    (checkLoops script = .ok () →
      ∀ {σ : Type} (backend : Backend σ) (settings : RunSettings) (session : Session σ),
        runGuarded backend settings script session = run backend settings script session ∧
        ∀ error, (run backend settings script session).1 = .error error →
          error.cause ≠ .unboundLoop) ∧
    (∀ error, checkLoops script = .error error →
      ∀ {σ : Type} (backend : Backend σ) (settings : RunSettings)
        (session : Session (σ × List Call)),
        run backend.logged settings script session = (.error error, session)) := by
  refine ⟨checkLoops_eq_ok_iff script, checkLoops_eq_error_iff script, ?_, ?_⟩
  · intro accepted σ backend settings session
    exact ⟨runGuarded_eq backend settings accepted session,
      fun error => cause_ne_unboundLoop backend settings accepted session⟩
  · intro error rejected σ backend settings session
    rw [run, rejected]

example : checkLoops [.forEachToken "a" [.click "$\x7bloop\x7d"],
    .ifExists "#a" [.forEachToken "$\x7bloop\x7d" [], .clear "$\x7bloop\x7d"]] =
      .error ⟨⟨[1, 0]⟩, .unboundLoop⟩ := by
  decide

end Execution

end Replay
