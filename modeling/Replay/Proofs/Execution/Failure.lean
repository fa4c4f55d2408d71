import Mathlib.Control.Monad.Basic
import Replay.Backend.Recording
import Replay.Proofs.Execution.Log
import Replay.Proofs.Execution.Trace

namespace Replay

variable {σ : Type}

def Action.descendant? : Action → List Nat → Option Action
  | action, [] => some action
  | action, index :: rest => (action.body[index]?).bind (·.descendant? rest)

def descendantAmong? (actions : List Action) : List Nat → Option Action
  | [] => none
  | index :: rest => (actions[index]?).bind (·.descendant? rest)

def Path.actionIn? (path : Path) (script : List Action) : Option Action :=
  descendantAmong? script path.indices

theorem descendant?_of_body {action : Action} {indices : List Nat} {found : Action}
    (inBody : descendantAmong? action.body indices = some found) :
    action.descendant? indices = some found := by
  cases indices with
  | nil => cases inBody
  | cons index rest => exact inBody

/-- The action makes the call under the token, behind the earlier exchanges: the call that it begins
with, or that for the text of the first element just found. -/
inductive Action.Makes (token? : Option String) (action : Action) : List Exchange → Call → Prop
  | opening {before : List Exchange} {call : Call} :
      action.opening? token? = some call → Makes token? action before call
  | textOf {before : List Exchange} {locator : String} {label : Option String} {element : Element}
      {others : List Element} : action = .readText locator label →
      Makes token? action
        (before ++ [⟨.find (Template.render locator token?), .found (element :: others)⟩])
        (.textOf element.id)

def fallibleCommands : List String :=
  ["get", "click", "clear", "send_keys", "refresh", "text", "exist"]

theorem Action.Makes.command_mem {token? : Option String} {action : Action}
    {before : List Exchange} {call : Call} (makes : action.Makes token? before call) :
    action.command ∈ fallibleCommands := by
  cases makes with
  | opening opens =>
    cases action with
    | wait nanos => cases opens
    | forEachToken source body => cases opens
    | _ => simp [command, fallibleCommands]
  | textOf reads =>
    subst reads
    simp [command, fallibleCommands]

theorem Action.Makes.behind {token? : Option String} {action : Action} {before : List Exchange}
    {call : Call} (makes : action.Makes token? before call) (earlier : List Exchange) :
    action.Makes token? (earlier ++ before) call := by
  cases makes with
  | opening opens => exact .opening opens
  | textOf reads =>
    rw [← List.append_assoc]
    exact .textOf reads

/-- The exchanges are all that the ending speaks of: none failed, or just the last one did, which the
action of the ending made. -/
def Ending.Accounts (exchanges : List Exchange) : Ending → Prop
  | completed => ∀ exchange ∈ exchanges, exchange.answer.isFailure = false
  | failed position error => ∃ earlier last, exchanges = earlier ++ [⟨last, .failed error⟩] ∧
      (∀ exchange ∈ earlier, exchange.answer.isFailure = false) ∧
      position.action.Makes position.token? earlier last

def Ending.LiesBelow (base : Path) (find : List Nat → Option Action) : Ending → Prop
  | completed => True
  | failed position _ => ∃ indices, position.path.indices = base.indices ++ indices ∧
      find indices = some position.action

namespace Ending

variable {exchanges others : List Exchange} {ending : Ending}

theorem Accounts.behind (succeeded : ∀ exchange ∈ exchanges, exchange.answer.isFailure = false)
    (accounts : ending.Accounts others) : ending.Accounts (exchanges ++ others) := by
  cases ending with
  | completed => exact List.forall_mem_append.mpr ⟨succeeded, accounts⟩
  | failed position error =>
    obtain ⟨earlier, last, rfl, before, makes⟩ := accounts
    exact ⟨exchanges ++ earlier, last, (List.append_assoc _ _ _).symm,
      List.forall_mem_append.mpr ⟨succeeded, before⟩, makes.behind exchanges⟩

theorem LiesBelow.mono {base : Path} {find other : List Nat → Option Action}
    (lies : ending.LiesBelow base find)
    (same : ∀ indices action, find indices = some action → other indices = some action) :
    ending.LiesBelow base other := by
  cases ending with
  | completed => trivial
  | failed position error =>
    obtain ⟨indices, below, found⟩ := lies
    exact ⟨indices, below, same indices _ found⟩

theorem LiesBelow.child {base : Path} {index : Nat} {action : Action} {actions : List Action}
    (lies : ending.LiesBelow (base.child index) action.descendant?)
    (placed : actions[index]? = some action) :
    ending.LiesBelow base (descendantAmong? actions) := by
  cases ending with
  | completed => trivial
  | failed position error =>
    obtain ⟨indices, below, found⟩ := lies
    refine ⟨index :: indices, ?_, ?_⟩
    · rw [below, Path.child, List.append_assoc, List.singleton_append]
    · rw [descendantAmong?, placed, Option.bind_some, found]

end Ending

section Traces

variable {settings : RunSettings}

mutual

/-- A failed trace ends with the call that failed, and the calls before it succeeded. -/
theorem StepTrace.accounts {token? : Option String} {path : Path} {action : Action}
    {exchanges : List Exchange} {texts : List String} {ending : Ending} :
    StepTrace settings token? path action exchanges texts ending → ending.Accounts exchanges
  | .acted _ | .paused _ | .missed _ _ | .absent _ _ => List.forall_mem_singleton.mpr rfl
  | .read _ _ _ _ _ => List.forall_mem_cons.mpr ⟨rfl, List.forall_mem_singleton.mpr rfl⟩
  | .refused _ opens => ⟨[], _, rfl, List.forall_mem_nil _, .opening opens⟩
  | .unreadable locator _ element others _ =>
    have found : ∀ exchange ∈ [Exchange.mk (.find (Template.render locator token?))
        (.found (element :: others))], exchange.answer.isFailure = false :=
      List.forall_mem_singleton.mpr rfl
    ⟨[] ++ [_], _, rfl, found, .textOf rfl⟩
  | .entered _ _ _ inside =>
    Ending.Accounts.behind (List.forall_mem_singleton.mpr rfl) inside.accounts
  | .looped turns => turns.accounts

theorem ListTrace.accounts {token? : Option String} {parent : Path} {index : Nat}
    {actions : List Action} {exchanges : List Exchange} {texts : List String} {ending : Ending} :
    ListTrace settings token? parent index actions exchanges texts ending → ending.Accounts exchanges
  | .nil => List.forall_mem_nil _
  | .cons first rest => .behind first.accounts rest.accounts
  | .stopped first => first.accounts

theorem TurnsTrace.accounts {path : Path} {body : List Action} {tokens : List String}
    {exchanges : List Exchange} {texts : List String} {ending : Ending} :
    TurnsTrace settings path body tokens exchanges texts ending → ending.Accounts exchanges
  | .nil => List.forall_mem_nil _
  | .cons first rest =>
    .behind first.accounts
      (Ending.Accounts.behind (List.forall_mem_singleton.mpr rfl) rest.accounts)
  | .stopped first => first.accounts

end

mutual

theorem StepTrace.liesBelow {token? : Option String} {path : Path} {action : Action}
    {exchanges : List Exchange} {texts : List String} {ending : Ending} :
    StepTrace settings token? path action exchanges texts ending →
    ending.LiesBelow path action.descendant?
  | .acted _ | .paused _ | .missed _ _ | .read _ _ _ _ _ | .absent _ _ => trivial
  | .refused _ _ | .unreadable _ _ _ _ _ => ⟨[], (List.append_nil _).symm, rfl⟩
  | .entered _ _ _ inside => (inside.liesBelow [] rfl).mono fun _ _ inBody => descendant?_of_body inBody
  | .looped turns => turns.liesBelow.mono fun _ _ inBody => descendant?_of_body inBody

theorem ListTrace.liesBelow {token? : Option String} {parent : Path} {index : Nat}
    {actions : List Action} {exchanges : List Exchange} {texts : List String} {ending : Ending}
    (trace : ListTrace settings token? parent index actions exchanges texts ending)
    (before : List Action) (placed : before.length = index) :
    ending.LiesBelow parent (descendantAmong? (before ++ actions)) :=
  match trace with
  | .nil => trivial
  | @ListTrace.cons _ _ _ _ action _ _ _ _ _ _ _ rest => by
    have onward := rest.liesBelow (before ++ [action]) (by rw [List.length_append, placed]; rfl)
    rwa [List.append_assoc] at onward
  | .stopped first => first.liesBelow.child (by simp [← placed])

theorem TurnsTrace.liesBelow {path : Path} {body : List Action} {tokens : List String}
    {exchanges : List Exchange} {texts : List String} {ending : Ending} :
    TurnsTrace settings path body tokens exchanges texts ending →
    ending.LiesBelow path (descendantAmong? body)
  | .nil => trivial
  | .cons _ rest => rest.liesBelow
  | .stopped inside => inside.liesBelow [] rfl

end

end Traces

namespace Execution

/-- The error of a run pins down the action that failed. It carries an answer of the backend and the
path of an action of the script that can fail. The last call of the run is one of that action's own,
made under the token of the innermost turn under way, and it is the one so answered: every earlier call
succeeded and nothing was called behind it. -/
theorem run_error_at_last_call (backend : Backend σ) (settings : RunSettings) {script : List Action}
    (accepted : checkLoops script = .ok ()) (state : σ) (texts : List String) {error : ScriptError}
    {final : Session σ}
    (failed : run backend settings script ⟨state, texts, []⟩ = (.error error, final)) :
    let calls := (run backend.logged settings script ⟨(state, []), texts, []⟩).2.backend.2
    ∃ action token? answer earlier last read,
      error.cause = .backend answer ∧
      error.path.actionIn? script = some action ∧
      action.command ∈ fallibleCommands ∧
      calls = earlier.map Exchange.call ++ [last] ∧
      backend.Conversation state (earlier ++ [⟨last, .failed answer⟩]) final.backend ∧
      (∀ exchange ∈ earlier, exchange.answer.isFailure = false) ∧
      action.Makes token? earlier last ∧
      final.texts = texts ++ read ∧
      ListTrace settings none .root 0 script (earlier ++ [⟨last, .failed answer⟩]) read
        (.failed ⟨error.path, action, token?⟩ answer) := by
  intro calls
  obtain ⟨exchanges, read, ending, talk, grown, verdict, trace⟩ :=
    run_traced backend.logged settings accepted ⟨(state, []), texts, []⟩ rfl
  have same := run_forgetLog backend settings script ⟨(state, []), texts, []⟩
  obtain ⟨result, left⟩ := Prod.mk.inj (same.trans failed)
  rw [result] at verdict
  cases ending with
  | completed => cases verdict
  | failed position answer =>
    obtain rfl := Except.error.inj verdict
    obtain ⟨earlier, last, rfl, succeeded, makes⟩ := trace.accounts
    obtain ⟨indices, below, found⟩ := trace.liesBelow [] rfl
    obtain ⟨made, plain⟩ := talk.of_logged
    refine ⟨position.action, position.token?, answer, earlier, last, read, rfl, ?_, makes.command_mem,
      ?_, ?_, succeeded, makes, ?_, trace⟩
    · rw [Path.actionIn?, below]
      exact found
    · change calls = _ at made
      rw [made, List.map_append]
      rfl
    · rw [← left]
      exact plain
    · rw [← left]
      exact grown

def guardedClicks : List Action :=
  [.forEachToken "a, b" [.ifExists "#$\x7bloop\x7d" [.click ".$\x7bloop\x7d"]]]

def oneButton : Recording :=
  ((Recording.empty.addElement "#a" "").addElement "#b" "").addElement ".a" ""

/-- The click of the second turn fails, three levels down. -/
theorem run_error_at_last_call_guardedClicks :
    let outcome := run Recording.backend {} guardedClicks ⟨oneButton, [], []⟩
    let calls := (run Recording.backend.logged {} guardedClicks ⟨(oneButton, []), [], []⟩).2.backend.2
    let error : ScriptError := ⟨⟨[0, 0, 0]⟩, .backend (.elementNotFound ".b")⟩
    checkLoops guardedClicks = .ok () ∧ outcome.1 = .error error ∧
    ∃ action token? answer earlier last read, error.cause = .backend answer ∧
      error.path.actionIn? guardedClicks = some action ∧ action.command ∈ fallibleCommands ∧
      calls = earlier.map Exchange.call ++ [last] ∧ action.Makes token? earlier last ∧
      ListTrace {} none .root 0 guardedClicks (earlier ++ [⟨last, .failed answer⟩]) read
        (.failed ⟨error.path, action, token?⟩ answer) := by
  intro outcome calls error
  have accepted : checkLoops guardedClicks = .ok () := by rfl
  have failed : outcome.1 = .error error := by decide +kernel
  have ended : outcome = (.error error, outcome.2) := by rw [← failed]
  obtain ⟨action, token?, answer, earlier, last, read, cause, found, fallible, made, _, _, makes, _,
    trace⟩ := run_error_at_last_call Recording.backend {} accepted oneButton [] ended
  exact ⟨accepted, failed, action, token?, answer, earlier, last, read, cause, found, fallible, made,
    makes, trace⟩

end Execution

end Replay
