import Replay.Proofs.Execution.Regular
import Replay.Proofs.Execution.Transcript

/-!
The traces of a script: which exchanges with a backend it can have, which texts it reads on the way, and
how it ends. Nothing here looks at the state of a backend. A run of an accepted script has one of the
script's traces.
-/

namespace Replay

variable {σ α : Type}

structure Position where
  path : Path
  action : Action
  token? : Option String

inductive Ending
  | completed
  | failed (position : Position) (error : BackendError)

def Ending.verdict : Ending → Except ScriptError Unit
  | completed => .ok ()
  | failed position error => .error ⟨position.path, .backend error⟩

def typedKeys? (token? : Option String) (text : String) : TypingMode → Option String
  | .literal => some (Template.render text token?)
  | .submit => some (Template.render text token? ++ submitKey)
  | .loop => token?

/-- The first call of an action that can fail, with the action's own texts rendered under the token. -/
def Action.opening? (token? : Option String) : Action → Option Call
  | .navigate url => some (.navigate (Template.render url token?))
  | .click locator => some (.click (Template.render locator token?))
  | .clear locator => some (.clear (Template.render locator token?))
  | .typeText locator text mode =>
    (typedKeys? token? text mode).map (.sendKeys (Template.render locator token?))
  | .refresh => some .refresh
  | .readText locator _ => some (.find (Template.render locator token?))
  | .ifExists locator _ => some (.find (Template.render locator token?))
  | .wait _ => none
  | .forEachToken _ _ => none

def missingText? (policy : MissingText) (locator : String) (label : Option String) : Option String :=
  match policy with
  | .skip => none
  | .diagnostic => (label.or (quotedLabel locator)).map (s!"{·} does not exist.")

section Traces

variable (settings : RunSettings)

mutual

inductive StepTrace : (token? : Option String) → Path → Action → List Exchange → List String →
    Ending → Prop
  | acted {token? : Option String} {path : Path} {action : Action} {call : Call} :
      action.opening? token? = some call →
      StepTrace token? path action [⟨call, .done⟩] [] .completed
  | refused {token? : Option String} {path : Path} {action : Action} {call : Call}
      (error : BackendError) : action.opening? token? = some call →
      StepTrace token? path action [⟨call, .failed error⟩] [] (.failed ⟨path, action, token?⟩ error)
  | paused {token? : Option String} {path : Path} (nanos : Nat) :
      StepTrace token? path (.wait nanos) [⟨.pause nanos, .done⟩] [] .completed
  | missed {token? : Option String} {path : Path} (locator : String) (label : Option String) :
      StepTrace token? path (.readText locator label)
        [⟨.find (Template.render locator token?), .found []⟩]
        (missingText? settings.missingText (Template.render locator token?)
          (label.map (Template.render · token?))).toList .completed
  | read {token? : Option String} {path : Path} (locator : String) (label : Option String)
      (element : Element) (others : List Element) (text : String) :
      StepTrace token? path (.readText locator label)
        [⟨.find (Template.render locator token?), .found (element :: others)⟩,
          ⟨.textOf element.id, .text text⟩] [text] .completed
  | unreadable {token? : Option String} {path : Path} (locator : String) (label : Option String)
      (element : Element) (others : List Element) (error : BackendError) :
      StepTrace token? path (.readText locator label)
        [⟨.find (Template.render locator token?), .found (element :: others)⟩,
          ⟨.textOf element.id, .failed error⟩] []
        (.failed ⟨path, .readText locator label, token?⟩ error)
  | absent {token? : Option String} {path : Path} (locator : String) (body : List Action) :
      StepTrace token? path (.ifExists locator body)
        [⟨.find (Template.render locator token?), .found []⟩] [] .completed
  | entered {token? : Option String} {path : Path} (locator : String) {body : List Action}
      (element : Element) (others : List Element) {exchanges : List Exchange} {texts : List String}
      {ending : Ending} : ListTrace token? path 0 body exchanges texts ending →
      StepTrace token? path (.ifExists locator body)
        (⟨.find (Template.render locator token?), .found (element :: others)⟩ :: exchanges) texts ending
  | looped {token? : Option String} {path : Path} {source : String} {body : List Action}
      {exchanges : List Exchange} {texts : List String} {ending : Ending} :
      TurnsTrace path body (loopTokens (Template.render source token?)) exchanges texts ending →
      StepTrace token? path (.forEachToken source body) exchanges texts ending

inductive ListTrace : (token? : Option String) → Path → (index : Nat) → List Action →
    List Exchange → List String → Ending → Prop
  | nil {token? : Option String} {parent : Path} {index : Nat} :
      ListTrace token? parent index [] [] [] .completed
  | cons {token? : Option String} {parent : Path} {index : Nat} {action : Action}
      {rest : List Action} {exchanges others : List Exchange} {texts further : List String}
      {ending : Ending} :
      StepTrace token? (parent.child index) action exchanges texts .completed →
      ListTrace token? parent (index + 1) rest others further ending →
      ListTrace token? parent index (action :: rest) (exchanges ++ others) (texts ++ further) ending
  | stopped {token? : Option String} {parent : Path} {index : Nat} {action : Action}
      {rest : List Action} {exchanges : List Exchange} {texts : List String} {position : Position}
      {error : BackendError} :
      StepTrace token? (parent.child index) action exchanges texts (.failed position error) →
      ListTrace token? parent index (action :: rest) exchanges texts (.failed position error)

inductive TurnsTrace : Path → List Action → (tokens : List String) → List Exchange →
    List String → Ending → Prop
  | nil {path : Path} {body : List Action} : TurnsTrace path body [] [] [] .completed
  | cons {path : Path} {body : List Action} {token : String} {rest : List String}
      {exchanges others : List Exchange} {texts further : List String} {ending : Ending} :
      ListTrace (some token) path 0 body exchanges texts .completed →
      TurnsTrace path body rest others further ending →
      TurnsTrace path body (token :: rest)
        (exchanges ++ ⟨.pause (Duration.ofMillis settings.loopDelayMillis), .done⟩ :: others)
        (texts ++ further) ending
  | stopped {path : Path} {body : List Action} {token : String} {rest : List String}
      {exchanges : List Exchange} {texts : List String} {position : Position}
      {error : BackendError} :
      ListTrace (some token) path 0 body exchanges texts (.failed position error) →
      TurnsTrace path body (token :: rest) exchanges texts (.failed position error)

end

end Traces

def Traced (backend : Backend σ) (before : Session σ)
    (shows : List Exchange → List String → Ending → Prop) (outcome : Outcome σ) : Prop :=
  ∃ exchanges texts ending, backend.Conversation before.backend exchanges outcome.2.backend ∧
    outcome.2.texts = before.texts ++ texts ∧ outcome.1 = ending.verdict ∧
    shows exchanges texts ending

namespace Traced

variable {backend : Backend σ} {session : Session σ} {outcome : Outcome σ}
  {shows first second : List Exchange → List String → Ending → Prop}

theorem completed (shown : shows [] [] .completed) : Traced backend session shows (.ok (), session) :=
  ⟨[], [], .completed, .nil, (List.append_nil _).symm, rfl, shown⟩

theorem mono (traced : Traced backend session first outcome)
    (weaker : ∀ exchanges texts ending, first exchanges texts ending → second exchanges texts ending) :
    Traced backend session second outcome := by
  obtain ⟨exchanges, texts, ending, talk, grown, verdict, shown⟩ := traced
  exact ⟨exchanges, texts, ending, talk, grown, verdict, weaker _ _ _ shown⟩

theorem call (position : Position) {attempt : Attempt σ α} (made : Call) (value : α → Answer)
    {proceed : α → Session σ → Outcome σ}
    (performed : ∀ state, (attempt state).2 = backend.perform state made)
    (answered : ∀ state, backend.answer state made = .ofResult value (attempt state).1)
    (refused : ∀ error, shows [⟨made, .failed error⟩] [] (.failed position error))
    (next : ∀ result state, Traced backend { session with backend := state }
      (fun exchanges texts ending => shows (⟨made, value result⟩ :: exchanges) texts ending)
      (proceed result { session with backend := state })) :
    Traced backend session shows (Execution.call position.path attempt session proceed) := by
  have reached := performed session.backend
  have given := answered session.backend
  rw [Execution.call]
  rcases attempted : attempt session.backend with ⟨error | result, after⟩
  · rw [attempted] at reached given
    obtain rfl : after = backend.perform session.backend made := reached
    refine ⟨[⟨made, .failed error⟩], [], .failed position error, ?_, (List.append_nil _).symm, rfl,
      refused error⟩
    change backend.Conversation session.backend [⟨made, Answer.ofResult value (.error error)⟩] _
    rw [← given]
    exact .single made
  · rw [attempted] at reached given
    obtain rfl : after = backend.perform session.backend made := reached
    obtain ⟨exchanges, texts, ending, talk, grown, verdict, shown⟩ :=
      next result (backend.perform session.backend made)
    refine ⟨⟨made, value result⟩ :: exchanges, texts, ending, ?_, grown, verdict, shown⟩
    change backend.Conversation session.backend
      (⟨made, Answer.ofResult value (.ok result)⟩ :: exchanges) _
    rw [← given]
    exact .cons made talk

theorem andThen {next : Session σ → Outcome σ} (start : Traced backend session first outcome)
    (rest : ∀ middle, outcome = (.ok (), middle) → Traced backend middle second (next middle))
    (stops : ∀ exchanges texts position error, first exchanges texts (.failed position error) →
      shows exchanges texts (.failed position error))
    (goes : ∀ exchanges texts others further ending, first exchanges texts .completed →
      second others further ending → shows (exchanges ++ others) (texts ++ further) ending) :
    Traced backend session shows (outcome.andThen next) := by
  obtain ⟨exchanges, texts, ending, talk, grown, verdict, shown⟩ := start
  rcases outcome with ⟨result, middle⟩
  cases ending with
  | failed position error =>
    obtain rfl : result = _ := verdict
    exact ⟨exchanges, texts, _, talk, grown, rfl, stops _ _ _ _ shown⟩
  | completed =>
    obtain rfl : result = .ok () := verdict
    obtain ⟨others, further, last, more, longer, closed, seen⟩ := rest middle rfl
    refine ⟨exchanges ++ others, texts ++ further, last, talk.append more, ?_, closed,
      goes _ _ _ _ _ shown seen⟩
    rw [← List.append_assoc, ← grown]
    exact longer

theorem turn (settings : RunSettings) (path : Path) (actions : List Action) (token : String)
    {body : Session σ → Outcome σ}
    (inside : Traced backend { session with bindings := token :: session.bindings }
      (ListTrace settings (some token) path 0 actions)
      (body { session with bindings := token :: session.bindings })) :
    Traced backend session
      (fun exchanges texts ending => TurnsTrace settings path actions [token] exchanges texts ending)
      (Execution.turn backend (Duration.ofMillis settings.loopDelayMillis) body token session) := by
  obtain ⟨exchanges, texts, ending, talk, grown, verdict, shown⟩ := inside
  rw [Execution.turn]
  rcases ended : body { session with bindings := token :: session.bindings } with ⟨result, after⟩
  rw [ended] at talk grown verdict
  cases ending with
  | failed position error =>
    obtain rfl : result = _ := verdict
    exact ⟨exchanges, texts, _, talk, grown, rfl, .stopped shown⟩
  | completed =>
    obtain rfl : result = .ok () := verdict
    refine ⟨_, texts ++ [], .completed, talk.append (.single (.pause _)), ?_, rfl, .cons shown .nil⟩
    rw [List.append_nil]
    exact grown

end Traced

theorem TurnsTrace.append {settings : RunSettings} {path : Path} {body : List Action}
    {token : String} {rest : List String} {exchanges others : List Exchange}
    {texts further : List String} {ending : Ending}
    (first : TurnsTrace settings path body [token] exchanges texts .completed)
    (more : TurnsTrace settings path body rest others further ending) :
    TurnsTrace settings path body (token :: rest) (exchanges ++ others) (texts ++ further) ending := by
  cases first with
  | cons inside last =>
    cases last with
    | nil =>
      rw [List.append_nil, List.append_assoc]
      exact .cons inside more

theorem TurnsTrace.stop {settings : RunSettings} {path : Path} {body : List Action}
    {token : String} (rest : List String) {exchanges : List Exchange} {texts : List String}
    {position : Position} {error : BackendError}
    (first : TurnsTrace settings path body [token] exchanges texts (.failed position error)) :
    TurnsTrace settings path body (token :: rest) exchanges texts (.failed position error) := by
  cases first with
  | cons inside last => cases last
  | stopped inside => exact .stopped inside

namespace Execution

variable {backend : Backend σ} {settings : RunSettings}

theorem forTokens_traced (path : Path) (actions : List Action) {body : Session σ → Outcome σ}
    (tokens : List String) (session : Session σ)
    (inside : ∀ (token : String) (before : Session σ),
      Traced backend { before with bindings := token :: before.bindings }
        (ListTrace settings (some token) path 0 actions)
        (body { before with bindings := token :: before.bindings })) :
    Traced backend session (TurnsTrace settings path actions tokens)
      (forTokens backend (Duration.ofMillis settings.loopDelayMillis) body tokens session) := by
  induction tokens generalizing session with
  | nil => exact .completed .nil
  | cons token rest ih =>
    rw [forTokens_cons]
    refine (Traced.turn settings path actions token (inside token session)).andThen
      (fun middle _ => ih middle) ?_ ?_
    · exact fun _ _ _ _ stopped => stopped.stop rest
    · exact fun _ _ _ _ _ first more => first.append more

theorem noteMissing_texts (policy : MissingText) (locator : String) (label : Option String)
    (session : Session σ) :
    (noteMissing policy locator label session).texts =
      session.texts ++ (missingText? policy locator label).toList := by
  cases policy with
  | skip => exact (List.append_nil _).symm
  | diagnostic =>
    rw [noteMissing, missingText?]
    cases label.or (quotedLabel locator) with
    | none => exact (List.append_nil _).symm
    | some label => rfl

theorem readFirst_traced (path : Path) (locator : String) (label : Option String)
    (found : List Element) (session : Session σ) (token? : Option String) :
    Traced backend session
      (fun exchanges texts ending => StepTrace settings token? path (.readText locator label)
        (⟨.find (Template.render locator token?), .found found⟩ :: exchanges) texts ending)
      (readFirst backend settings.missingText path (Template.render locator token?)
        (label.map (Template.render · token?)) found session) := by
  cases found with
  | nil =>
    rw [readFirst]
    refine ⟨[], _, .completed, ?_, noteMissing_texts _ _ _ _, rfl, .missed locator label⟩
    rw [noteMissing_backend]
    exact .nil
  | cons element others =>
    rw [readFirst]
    refine Traced.call ⟨path, .readText locator label, token?⟩ (.textOf element.id) .text
      (fun _ => rfl) (fun _ => rfl) ?_ ?_
    · exact .unreadable locator label element others
    · exact fun text state =>
        ⟨[], [text], .completed, .nil, rfl, rfl, .read locator label element others text⟩

theorem act_traced {action : Action} {path : Path} {session : Session σ} {made : Call}
    {attempt : Attempt σ Unit} (opens : action.opening? session.binding? = some made)
    (performed : ∀ state, (attempt state).2 = backend.perform state made)
    (answered : ∀ state, backend.answer state made = .ofResult (fun _ => .done) (attempt state).1) :
    Traced backend session (StepTrace settings session.binding? path action)
      (call path attempt session done) :=
  Traced.call ⟨path, action, session.binding?⟩ made _ performed answered
    (fun error => .refused error opens) fun _ _ => .completed (.acted opens)

mutual

theorem runStep_traced (backend : Backend σ) (settings : RunSettings) (path : Path) :
    (action : Action) → (session : Session σ) →
    action.checkLoop session.binding?.isSome path = .ok () →
    Traced backend session (StepTrace settings session.binding? path action)
      (runStep backend settings path action session)
  | .navigate url, session, _ => by
    rw [runStep]
    exact act_traced rfl (fun _ => rfl) (fun _ => rfl)
  | .click locator, session, _ => by
    rw [runStep]
    exact act_traced rfl (fun _ => rfl) (fun _ => rfl)
  | .clear locator, session, _ => by
    rw [runStep]
    exact act_traced rfl (fun _ => rfl) (fun _ => rfl)
  | .typeText locator text .literal, session, _ => by
    rw [runStep]
    exact act_traced rfl (fun _ => rfl) (fun _ => rfl)
  | .typeText locator text .submit, session, _ => by
    rw [runStep]
    exact act_traced rfl (fun _ => rfl) (fun _ => rfl)
  | .typeText locator text .loop, session, accepted => by
    obtain ⟨token, bound⟩ := Option.isSome_iff_exists.mp (inLoop_of_checkLoop accepted)
    have opens : (Action.typeText locator text .loop).opening? session.binding? =
        some (.sendKeys (session.render locator) token) := by
      rw [Action.opening?, typedKeys?, bound, Option.map_some, Session.render, bound]
    have typed : runStep backend settings path (.typeText locator text .loop) session =
        call path (backend.sendKeys (session.render locator) token) session done := by
      rw [runStep, bound]
    rw [typed]
    exact act_traced opens (fun _ => rfl) (fun _ => rfl)
  | .wait nanos, session, _ => by
    rw [runStep]
    exact ⟨_, [], .completed, .single (.pause nanos), (List.append_nil _).symm, rfl, .paused nanos⟩
  | .refresh, session, _ => by
    rw [runStep]
    exact act_traced rfl (fun _ => rfl) (fun _ => rfl)
  | .readText locator label, session, _ => by
    rw [runStep]
    refine Traced.call ⟨path, .readText locator label, session.binding?⟩
      (.find (session.render locator)) .found (fun _ => rfl) (fun _ => rfl) ?_ ?_
    · exact fun error => .refused error rfl
    · exact fun found state =>
        readFirst_traced path locator label found { session with backend := state } session.binding?
  | .ifExists locator body, session, accepted => by
    rw [runStep]
    refine Traced.call ⟨path, .ifExists locator body, session.binding?⟩
      (.find (session.render locator)) .found (fun _ => rfl) (fun _ => rfl) ?_ ?_
    · exact fun error => .refused error rfl
    · intro found state
      cases found with
      | nil => exact .completed (.absent locator body)
      | cons element others =>
        exact (runFrom_traced backend settings path 0 body { session with backend := state }
          (checkLoopFrom_of_ifExists accepted)).mono fun _ _ _ => .entered locator element others
  | .forEachToken source body, session, accepted => by
    rw [runStep]
    refine (forTokens_traced path body _ session fun token before => ?_).mono fun _ _ _ => .looped
    exact runFrom_traced backend settings path 0 body
      { before with bindings := token :: before.bindings } (checkLoopFrom_of_forEachToken accepted)

theorem runFrom_traced (backend : Backend σ) (settings : RunSettings) (parent : Path) (index : Nat) :
    (actions : List Action) → (session : Session σ) →
    checkLoopFrom session.binding?.isSome parent index actions = .ok () →
    Traced backend session (ListTrace settings session.binding? parent index actions)
      (runFrom backend settings parent index actions session)
  | [], session, _ => by
    rw [runFrom_nil]
    exact .completed .nil
  | action :: rest, session, accepted => by
    obtain ⟨first, others⟩ := checkLoopFrom_cons_ok.mp accepted
    rw [runFrom_cons]
    have start := runStep_traced backend settings (parent.child index) action session first
    have kept := (runStep_regular backend settings (parent.child index) action session first).bindings
    have onward : ∀ middle, runStep backend settings (parent.child index) action session =
        (.ok (), middle) → Traced backend middle
          (ListTrace settings session.binding? parent (index + 1) rest)
          (runFrom backend settings parent (index + 1) rest middle) := by
      intro middle ended
      -- the step leaves the bindings, so the rest runs under the token of the start
      rw [ended] at kept
      have bound : session.binding? = middle.binding? := congrArg List.head? kept.symm
      rw [bound] at others ⊢
      exact runFrom_traced backend settings parent (index + 1) rest middle others
    refine start.andThen onward ?_ ?_
    · exact fun _ _ _ _ => .stopped
    · exact fun _ _ _ _ _ => .cons

end

/-- A run of an accepted script outside every loop has one of the script's traces. -/
theorem run_traced (backend : Backend σ) (settings : RunSettings) {script : List Action}
    (accepted : checkLoops script = .ok ()) (session : Session σ) (outside : session.bindings = []) :
    Traced backend session (ListTrace settings none .root 0 script)
      (run backend settings script session) := by
  have entered : checkLoopFrom session.binding?.isSome .root 0 script = .ok () := by
    rw [Session.binding?, outside]
    exact accepted
  have traced := runFrom_traced backend settings .root 0 script session entered
  rw [Session.binding?, outside] at traced
  rw [run, accepted]
  exact traced

end Execution

end Replay
