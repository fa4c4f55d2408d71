import Replay.Proofs.Execution.Trace
import Replay.Proofs.Execution.Unbound

/-!
A run as a list of deeds, each what one action does by itself. The deeds do not depend on what becomes of
missing texts, nor on the texts read before. The texts that a run adds are those of its deeds.
-/

namespace Replay

variable {σ α : Type}

/-- What an action does by itself, its own texts rendered under the token: its calls with the answers,
the text that it adds under each policy, and its result. A body is left aside. -/
inductive Action.Does (token? : Option String) :
    Action → List Exchange → (MissingText → Option String) → Except BackendError Unit → Prop
  | acted {action : Action} {call : Call} {answer : Answer} : action.opening? token? = some call →
      (∀ locator label, action ≠ .readText locator label) → answer.isFailure = false →
      Does token? action [⟨call, answer⟩] (fun _ => none) (.ok ())
  | refused {action : Action} {call : Call} (error : BackendError) :
      action.opening? token? = some call →
      Does token? action [⟨call, .failed error⟩] (fun _ => none) (.error error)
  | waited (nanos : Nat) :
      Does token? (.wait nanos) [⟨.pause nanos, .done⟩] (fun _ => none) (.ok ())
  | turned (source : String) (body : List Action) (nanos : Nat) :
      Does token? (.forEachToken source body) [⟨.pause nanos, .done⟩] (fun _ => none) (.ok ())
  | missed (locator : String) (label : Option String) :
      Does token? (.readText locator label) [⟨.find (Template.render locator token?), .found []⟩]
        (fun policy => missingText? policy (Template.render locator token?)
          (label.map (Template.render · token?))) (.ok ())
  | read (locator : String) (label : Option String) (element : Element) (others : List Element)
      (content : String) :
      Does token? (.readText locator label)
        [⟨.find (Template.render locator token?), .found (element :: others)⟩,
          ⟨.textOf element.id, .text content⟩] (fun _ => some content) (.ok ())
  | unreadable (locator : String) (label : Option String) (element : Element)
      (others : List Element) (error : BackendError) :
      Does token? (.readText locator label)
        [⟨.find (Template.render locator token?), .found (element :: others)⟩,
          ⟨.textOf element.id, .failed error⟩] (fun _ => none) (.error error)

structure Deed where
  position : Position
  exchanges : List Exchange
  text? : MissingText → Option String
  result : Except BackendError Unit
  does : position.action.Does position.token? exchanges text? result

theorem Action.Does.silent {action : Action} {token? : Option String} {exchanges : List Exchange}
    {text? : MissingText → Option String} {error : BackendError}
    (does : action.Does token? exchanges text? (.error error)) (policy : MissingText) :
    text? policy = none := by
  cases does with
  | refused _ _ => rfl
  | unreadable _ _ _ _ _ => rfl

def textsOf (policy : MissingText) (deeds : List Deed) : List String :=
  deeds.filterMap (·.text? policy)

@[simp] theorem textsOf_nil (policy : MissingText) : textsOf policy [] = [] := rfl

@[simp] theorem textsOf_cons (policy : MissingText) (deed : Deed) (deeds : List Deed) :
    textsOf policy (deed :: deeds) = (deed.text? policy).toList ++ textsOf policy deeds := by
  rw [textsOf, List.filterMap_cons]
  cases deed.text? policy <;> rfl

@[simp] theorem textsOf_append (policy : MissingText) (deeds others : List Deed) :
    textsOf policy (deeds ++ others) = textsOf policy deeds ++ textsOf policy others :=
  List.filterMap_append

theorem textsOf_failed {deed : Deed} {error : BackendError} (failed : deed.result = .error error)
    (policy : MissingText) : textsOf policy [deed] = [] := by
  have does := deed.does
  rw [failed] at does
  rw [textsOf_cons, does.silent]
  rfl

/-- The position is that of the action at the path under the token, or one below it. A branch keeps the
token; a loop binds each token of its source in turn. -/
inductive Action.Holds (position : Position) : Action → Path → Option String → Prop
  | self : Holds position position.action position.path position.token?
  | branch {locator : String} {body : List Action} {path : Path} {token? : Option String}
      {index : Nat} {action : Action} : body[index]? = some action →
      Holds position action (path.child index) token? →
      Holds position (.ifExists locator body) path token?
  | turn {source : String} {body : List Action} {path : Path} {token? : Option String}
      {token : String} {index : Nat} {action : Action} :
      token ∈ loopTokens (Template.render source token?) → body[index]? = some action →
      Holds position action (path.child index) (some token) →
      Holds position (.forEachToken source body) path token?

def HeldFrom (parent : Path) (index : Nat) (actions : List Action) (token? : Option String)
    (position : Position) : Prop :=
  ∃ (offset : Nat) (action : Action), actions[offset]? = some action ∧
    action.Holds position (parent.child (index + offset)) token?

/-- The position is that of an action of a script that runs under the token, with a token that the loops
around the action bind there. -/
def Position.In (script : List Action) (token? : Option String) (position : Position) : Prop :=
  HeldFrom .root 0 script token? position

section Held

variable {parent path : Path} {index : Nat} {action : Action} {rest body : List Action}
  {token? : Option String} {position : Position}

theorem HeldFrom.head (held : action.Holds position (parent.child index) token?) :
    HeldFrom parent index (action :: rest) token? position := ⟨0, action, rfl, held⟩

theorem HeldFrom.tail (held : HeldFrom parent (index + 1) rest token? position) :
    HeldFrom parent index (action :: rest) token? position := by
  obtain ⟨offset, found, placed, held⟩ := held
  refine ⟨offset + 1, found, placed, ?_⟩
  rwa [Nat.add_right_comm] at held

theorem HeldFrom.branch {locator : String} (held : HeldFrom path 0 body token? position) :
    (Action.ifExists locator body).Holds position path token? := by
  obtain ⟨offset, found, placed, held⟩ := held
  rw [Nat.zero_add] at held
  exact .branch placed held

theorem HeldFrom.turn {source token : String}
    (bound : token ∈ loopTokens (Template.render source token?))
    (held : HeldFrom path 0 body (some token) position) :
    (Action.forEachToken source body).Holds position path token? := by
  obtain ⟨offset, found, placed, held⟩ := held
  rw [Nat.zero_add] at held
  exact .turn bound placed held

end Held

/-- What a verdict says of the deeds before it: all succeeded, or all but the last, which the verdict
blames. An action that finds no token to type does nothing. -/
inductive Concludes : List Deed → Except ScriptError Unit → Prop
  | succeeded {deeds : List Deed} : (∀ deed ∈ deeds, deed.result = .ok ()) → Concludes deeds (.ok ())
  | refused {earlier : List Deed} {last : Deed} {answer : BackendError} :
      (∀ deed ∈ earlier, deed.result = .ok ()) → last.result = .error answer →
      Concludes (earlier ++ [last]) (.error ⟨last.position.path, .backend answer⟩)
  | unbound {deeds : List Deed} (path : Path) : (∀ deed ∈ deeds, deed.result = .ok ()) →
      Concludes deeds (.error ⟨path, .unboundLoop⟩)

theorem Concludes.behind {deeds others : List Deed} {verdict : Except ScriptError Unit}
    (succeeded : ∀ deed ∈ deeds, deed.result = .ok ()) (concluded : Concludes others verdict) :
    Concludes (deeds ++ others) verdict := by
  cases concluded with
  | succeeded more => exact .succeeded (List.forall_mem_append.mpr ⟨succeeded, more⟩)
  | refused more failed =>
    rw [← List.append_assoc]
    exact .refused (List.forall_mem_append.mpr ⟨succeeded, more⟩) failed
  | unbound path more => exact .unbound path (List.forall_mem_append.mpr ⟨succeeded, more⟩)

theorem Concludes.all_succeeded {deeds : List Deed} (concluded : Concludes deeds (.ok ())) :
    ∀ deed ∈ deeds, deed.result = .ok () := by
  cases concluded with
  | succeeded all => exact all

abbrev Runs (σ : Type) := MissingText → Session σ → Outcome σ

/-- Under each policy, and whatever texts there are, the runs consist of the deeds, give the verdict and
lead to the last state. They add the texts of the deeds, and leave the bindings. -/
structure Play (backend : Backend σ) (bindings : List String) (before : σ) (runs : Runs σ)
    (deeds : List Deed) (verdict : Except ScriptError Unit) (after : σ) : Prop where
  runs_eq : ∀ policy texts, runs policy ⟨before, texts, bindings⟩ =
    (verdict, ⟨after, texts ++ textsOf policy deeds, bindings⟩)
  talk : backend.Conversation before (deeds.flatMap Deed.exchanges) after
  concluded : Concludes deeds verdict

def Plays (backend : Backend σ) (held : Position → Prop) (bindings : List String) (before : σ)
    (runs : Runs σ) : Prop :=
  ∃ deeds verdict after, Play backend bindings before runs deeds verdict after ∧
    ∀ deed ∈ deeds, held deed.position

namespace Plays

variable {backend : Backend σ} {held : Position → Prop} {bindings : List String}
  {before middle after : σ} {runs others : Runs σ}

theorem mono {wider : Position → Prop} (plays : Plays backend held bindings before runs)
    (weaker : ∀ position, held position → wider position) :
    Plays backend wider bindings before runs := by
  obtain ⟨deeds, verdict, after, play, all⟩ := plays
  exact ⟨deeds, verdict, after, play, fun deed member => weaker _ (all deed member)⟩

theorem congr (plays : Plays backend held bindings before runs)
    (same : ∀ policy texts, others policy ⟨before, texts, bindings⟩ =
      runs policy ⟨before, texts, bindings⟩) : Plays backend held bindings before others := by
  obtain ⟨deeds, verdict, after, play, all⟩ := plays
  refine ⟨deeds, verdict, after, ⟨?_, play.talk, play.concluded⟩, all⟩
  intro policy texts
  rw [same, play.runs_eq]

theorem done : Plays backend held bindings before fun _ => Execution.done () := by
  refine ⟨[], .ok (), before, ⟨?_, .nil, .succeeded (List.forall_mem_nil _)⟩, List.forall_mem_nil _⟩
  intro policy texts
  rw [textsOf_nil, List.append_nil]
  rfl

theorem stop (deed : Deed) (here : held deed.position) {answer : BackendError}
    (failed : deed.result = .error answer) (talk : backend.Conversation before deed.exchanges after)
    (ran : ∀ policy texts, runs policy ⟨before, texts, bindings⟩ =
      (.error ⟨deed.position.path, .backend answer⟩, ⟨after, texts, bindings⟩)) :
    Plays backend held bindings before runs := by
  refine ⟨[deed], .error ⟨deed.position.path, .backend answer⟩, after, ⟨?_, ?_, ?_⟩,
    List.forall_mem_singleton.mpr here⟩
  · intro policy texts
    rw [ran, textsOf_failed failed, List.append_nil]
  · rwa [List.flatMap_singleton]
  · exact @Concludes.refused [] deed answer (List.forall_mem_nil _) failed

theorem step (deed : Deed) (here : held deed.position) (succeeded : deed.result = .ok ())
    (talk : backend.Conversation before deed.exchanges middle)
    (rest : Plays backend held bindings middle others)
    (ran : ∀ policy texts, runs policy ⟨before, texts, bindings⟩ =
      others policy ⟨middle, texts ++ (deed.text? policy).toList, bindings⟩) :
    Plays backend held bindings before runs := by
  obtain ⟨deeds, verdict, after, play, all⟩ := rest
  refine ⟨deed :: deeds, verdict, after, ⟨?_, ?_, ?_⟩, List.forall_mem_cons.mpr ⟨here, all⟩⟩
  · intro policy texts
    rw [ran, play.runs_eq, textsOf_cons, List.append_assoc]
  · rw [List.flatMap_cons]
    exact talk.append play.talk
  · have first : ∀ other ∈ [deed], other.result = .ok () := List.forall_mem_singleton.mpr succeeded
    exact play.concluded.behind first

theorem andThen (start : Plays backend held bindings before runs)
    (rest : ∀ middle, Plays backend held bindings middle others) :
    Plays backend held bindings before fun policy session =>
      (runs policy session).andThen (others policy) := by
  obtain ⟨deeds, verdict, middle, play, all⟩ := start
  rcases verdict with error | ⟨⟩
  · refine ⟨deeds, .error error, middle, ⟨?_, play.talk, play.concluded⟩, all⟩
    intro policy texts
    rw [play.runs_eq]
    rfl
  · obtain ⟨further, verdict, after, more, allFurther⟩ := rest middle
    refine ⟨deeds ++ further, verdict, after, ⟨?_, ?_, ?_⟩,
      List.forall_mem_append.mpr ⟨all, allFurther⟩⟩
    · intro policy texts
      rw [play.runs_eq, textsOf_append, ← List.append_assoc, ← more.runs_eq]
      rfl
    · rw [List.flatMap_append]
      exact play.talk.append more.talk
    · exact more.concluded.behind play.concluded.all_succeeded

theorem turn {path : Path} {source : String} {body : List Action} {token? : Option String}
    (here : held ⟨path, .forEachToken source body, token?⟩) (delay : Nat) (token : String)
    (inside : Plays backend held (token :: bindings) before runs) :
    Plays backend held bindings before fun policy session =>
      Execution.turn backend delay (runs policy) token session := by
  obtain ⟨deeds, verdict, after, play, all⟩ := inside
  have ran : ∀ policy texts, runs policy ⟨before, texts, token :: bindings⟩ =
      (verdict, ⟨after, texts ++ textsOf policy deeds, token :: bindings⟩) :=
    play.runs_eq
  rcases verdict with error | ⟨⟩
  · refine ⟨deeds, .error error, after, ⟨?_, play.talk, play.concluded⟩, all⟩
    intro policy texts
    rw [Execution.turn, ran]
    rfl
  · let pause : Deed := ⟨⟨path, .forEachToken source body, token?⟩, _, _, _, .turned source body delay⟩
    refine ⟨deeds ++ [pause], .ok (), backend.pause delay after, ⟨?_, ?_, ?_⟩,
      List.forall_mem_append.mpr ⟨all, List.forall_mem_singleton.mpr here⟩⟩
    · intro policy texts
      have silent : textsOf policy [pause] = [] := rfl
      rw [Execution.turn, ran, textsOf_append, silent, List.append_nil]
      rfl
    · rw [List.flatMap_append]
      exact play.talk.append (.single (.pause delay))
    · exact .succeeded
        (List.forall_mem_append.mpr ⟨play.concluded.all_succeeded, List.forall_mem_singleton.mpr rfl⟩)

theorem forTokens {path : Path} {source : String} {body : List Action} {token? : Option String}
    (here : held ⟨path, .forEachToken source body, token?⟩) (delay : Nat) (tokens : List String)
    (inside : ∀ token ∈ tokens, ∀ state, Plays backend held (token :: bindings) state runs) :
    Plays backend held bindings before fun policy session =>
      Execution.forTokens backend delay (runs policy) tokens session := by
  induction tokens generalizing before with
  | nil => exact .done
  | cons token rest ih =>
    have first := turn here delay token (inside token List.mem_cons_self before)
    have more : ∀ state, Plays backend held bindings state fun policy session =>
        Execution.forTokens backend delay (runs policy) rest session :=
      fun state => ih fun token member => inside token (List.mem_cons_of_mem _ member)
    simp only [Execution.forTokens_cons]
    exact first.andThen more

end Plays

theorem Backend.Conversation.of_attempt {backend : Backend σ} {before after : σ} {made : Call}
    {attempt : Attempt σ α} {value : α → Answer} {result : Except BackendError α}
    (performed : (attempt before).2 = backend.perform before made)
    (answered : backend.answer before made = .ofResult value (attempt before).1)
    (attempted : attempt before = (result, after)) :
    backend.Conversation before [⟨made, .ofResult value result⟩] after := by
  rw [attempted] at performed answered
  obtain rfl : after = backend.perform before made := performed
  rw [← answered]
  exact .single made

namespace Execution

variable {backend : Backend σ} {bindings : List String} {before : σ} {path : Path}

theorem act_plays {action : Action} {made : Call} {runs : Runs σ} (attempt : Attempt σ Unit)
    (opens : action.opening? bindings.head? = some made)
    (other : ∀ locator label, action ≠ .readText locator label)
    (performed : (attempt before).2 = backend.perform before made)
    (answered : backend.answer before made = .ofResult (fun _ => .done) (attempt before).1)
    (ran : ∀ policy texts, runs policy ⟨before, texts, bindings⟩ =
      call path attempt ⟨before, texts, bindings⟩ done) :
    Plays backend (fun position => action.Holds position path bindings.head?) bindings before runs := by
  rcases attempted : attempt before with ⟨error | ⟨⟩, after⟩
  · refine .stop ⟨⟨path, action, bindings.head?⟩, _, _, _, .refused error opens⟩ .self rfl
      (.of_attempt performed answered attempted) ?_
    intro policy texts
    rw [ran, call, attempted]
  · refine .step ⟨⟨path, action, bindings.head?⟩, _, _, _, .acted opens other rfl⟩ .self rfl
      (.of_attempt performed answered attempted) .done ?_
    intro policy texts
    rw [ran, call, attempted, Option.toList_none, List.append_nil]

theorem noteMissing_eq (policy : MissingText) (locator : String) (label : Option String)
    (session : Session σ) : noteMissing policy locator label session =
      { session with texts := session.texts ++ (missingText? policy locator label).toList } := by
  rw [← noteMissing_texts]
  calc
    noteMissing policy locator label session =
        { noteMissing policy locator label session with
          backend := session.backend, bindings := session.bindings } := by
      rw [← noteMissing_backend policy locator label, ← noteMissing_bindings policy locator label]
    _ = _ := rfl

theorem readText_plays (locator : String) (label : Option String) {runs : Runs σ}
    (ran : ∀ policy texts, runs policy ⟨before, texts, bindings⟩ =
      call path (backend.find (Template.render locator bindings.head?)) ⟨before, texts, bindings⟩
        (readFirst backend policy path (Template.render locator bindings.head?)
          (label.map (Template.render · bindings.head?)))) :
    Plays backend (fun position => (Action.readText locator label).Holds position path bindings.head?)
      bindings before runs := by
  rcases found : backend.find (Template.render locator bindings.head?) before with
    ⟨error | _ | ⟨element, others⟩, middle⟩
  · refine .stop ⟨⟨path, .readText locator label, bindings.head?⟩, _, _, _, .refused error rfl⟩ .self
      rfl (.of_attempt rfl rfl found) ?_
    intro policy texts
    rw [ran, call, found]
  · refine .step ⟨⟨path, .readText locator label, bindings.head?⟩, _, _, _, .missed locator label⟩
      .self rfl (.of_attempt rfl rfl found) .done ?_
    intro policy texts
    rw [ran, call, found]
    dsimp only
    rw [readFirst, noteMissing_eq]
    rfl
  · rcases read : backend.textOf element middle with ⟨error | content, after⟩
    · refine .stop ⟨⟨path, .readText locator label, bindings.head?⟩, _, _, _,
        .unreadable locator label element others error⟩ .self rfl
        (.append (.of_attempt rfl rfl found) (.of_attempt rfl rfl read)) ?_
      intro policy texts
      rw [ran, call, found]
      dsimp only
      rw [readFirst, call, read]
    · refine .step ⟨⟨path, .readText locator label, bindings.head?⟩, _, _, _,
        .read locator label element others content⟩ .self rfl
        (.append (.of_attempt rfl rfl found) (.of_attempt rfl rfl read)) .done ?_
      intro policy texts
      rw [ran, call, found]
      dsimp only
      rw [readFirst, call, read]
      rfl

theorem ifExists_plays (locator : String) {body : List Action} {inside runs : Runs σ}
    (enters : ∀ middle, Plays backend (HeldFrom path 0 body bindings.head?) bindings middle inside)
    (ran : ∀ policy texts, runs policy ⟨before, texts, bindings⟩ =
      call path (backend.find (Template.render locator bindings.head?)) ⟨before, texts, bindings⟩
        fun found session => if found = [] then (.ok (), session) else inside policy session) :
    Plays backend (fun position => (Action.ifExists locator body).Holds position path bindings.head?)
      bindings before runs := by
  have other : ∀ sought label, Action.ifExists locator body ≠ .readText sought label :=
    fun _ _ reads => nomatch reads
  rcases found : backend.find (Template.render locator bindings.head?) before with
    ⟨error | _ | ⟨element, others⟩, middle⟩
  · refine .stop ⟨⟨path, .ifExists locator body, bindings.head?⟩, _, _, _, .refused error rfl⟩ .self
      rfl (.of_attempt rfl rfl found) ?_
    intro policy texts
    rw [ran, call, found]
  · refine .step ⟨⟨path, .ifExists locator body, bindings.head?⟩, _, _, _, .acted rfl other rfl⟩ .self
      rfl (.of_attempt rfl rfl found) .done ?_
    intro policy texts
    rw [ran, call, found, Option.toList_none, List.append_nil]
    rfl
  · refine .step ⟨⟨path, .ifExists locator body, bindings.head?⟩, _, _, _, .acted rfl other rfl⟩ .self
      rfl (.of_attempt rfl rfl found) ((enters middle).mono fun _ => HeldFrom.branch) ?_
    intro policy texts
    rw [ran, call, found, Option.toList_none, List.append_nil]
    exact if_neg (List.cons_ne_nil _ _)

mutual

theorem runStep_plays (backend : Backend σ) (delayMillis : Nat) (path : Path) :
    (action : Action) → (bindings : List String) → (before : σ) →
    Plays backend (fun position => action.Holds position path bindings.head?) bindings before
      fun policy => runStep backend ⟨delayMillis, policy⟩ path action
  | .navigate url, bindings, before => by
    refine act_plays (backend.navigate (Template.render url bindings.head?)) rfl
      (fun _ _ reads => nomatch reads) rfl rfl ?_
    intro policy texts
    rw [runStep]
    rfl
  | .click locator, bindings, before => by
    refine act_plays (backend.click (Template.render locator bindings.head?)) rfl
      (fun _ _ reads => nomatch reads) rfl rfl ?_
    intro policy texts
    rw [runStep]
    rfl
  | .clear locator, bindings, before => by
    refine act_plays (backend.clear (Template.render locator bindings.head?)) rfl
      (fun _ _ reads => nomatch reads) rfl rfl ?_
    intro policy texts
    rw [runStep]
    rfl
  | .typeText locator text .literal, bindings, before => by
    refine act_plays (backend.sendKeys (Template.render locator bindings.head?)
      (Template.render text bindings.head?)) rfl (fun _ _ reads => nomatch reads) rfl rfl ?_
    intro policy texts
    rw [runStep]
    rfl
  | .typeText locator text .submit, bindings, before => by
    refine act_plays (backend.sendKeys (Template.render locator bindings.head?)
      (Template.render text bindings.head? ++ submitKey)) rfl (fun _ _ reads => nomatch reads) rfl rfl ?_
    intro policy texts
    rw [runStep]
    rfl
  | .typeText locator text .loop, [], before => by
    refine ⟨[], .error ⟨path, .unboundLoop⟩, before, ⟨?_, .nil, .unbound path (List.forall_mem_nil _)⟩,
      List.forall_mem_nil _⟩
    intro policy texts
    rw [runStep, textsOf_nil, List.append_nil]
    rfl
  | .typeText locator text .loop, token :: outer, before => by
    refine act_plays (backend.sendKeys (Template.render locator (some token)) token) rfl
      (fun _ _ reads => nomatch reads) rfl rfl ?_
    intro policy texts
    rw [runStep]
    rfl
  | .wait nanos, bindings, before => by
    refine .step ⟨⟨path, .wait nanos, bindings.head?⟩, _, _, _, .waited nanos⟩ .self rfl
      (.single (.pause nanos)) .done ?_
    intro policy texts
    rw [runStep, Option.toList_none, List.append_nil]
    rfl
  | .refresh, bindings, before => by
    refine act_plays backend.refresh rfl (fun _ _ reads => nomatch reads) rfl rfl ?_
    intro policy texts
    rw [runStep]
  | .readText locator label, bindings, before => by
    refine readText_plays locator label ?_
    intro policy texts
    rw [runStep]
    rfl
  | .ifExists locator body, bindings, before => by
    refine ifExists_plays locator (runFrom_plays backend delayMillis path 0 body bindings) ?_
    intro policy texts
    rw [runStep]
    rfl
  | .forEachToken source body, bindings, before => by
    let here : Position := ⟨path, .forEachToken source body, bindings.head?⟩
    have own : (Action.forEachToken source body).Holds here path bindings.head? := .self
    have turns : ∀ token ∈ loopTokens (Template.render source bindings.head?), ∀ middle,
        Plays backend
          (fun position => (Action.forEachToken source body).Holds position path bindings.head?)
          (token :: bindings) middle fun policy => runFrom backend ⟨delayMillis, policy⟩ path 0 body := by
      intro token bound middle
      exact (runFrom_plays backend delayMillis path 0 body (token :: bindings) middle).mono
        fun _ => HeldFrom.turn bound
    refine (Plays.forTokens own (Duration.ofMillis delayMillis) _ turns).congr ?_
    intro policy texts
    rw [runStep]
    rfl

theorem runFrom_plays (backend : Backend σ) (delayMillis : Nat) (parent : Path) (index : Nat) :
    (actions : List Action) → (bindings : List String) → (before : σ) →
    Plays backend (HeldFrom parent index actions bindings.head?) bindings before
      fun policy => runFrom backend ⟨delayMillis, policy⟩ parent index actions
  | [], bindings, before => by
    refine Plays.done.congr ?_
    intro policy texts
    exact runFrom_nil parent index _
  | action :: rest, bindings, before => by
    have first : Plays backend (HeldFrom parent index (action :: rest) bindings.head?) bindings before
        fun policy => runStep backend ⟨delayMillis, policy⟩ (parent.child index) action :=
      (runStep_plays backend delayMillis (parent.child index) action bindings before).mono
        fun _ => HeldFrom.head
    have others : ∀ middle,
        Plays backend (HeldFrom parent index (action :: rest) bindings.head?) bindings middle
          fun policy => runFrom backend ⟨delayMillis, policy⟩ parent (index + 1) rest :=
      fun middle => (runFrom_plays backend delayMillis parent (index + 1) rest bindings middle).mono
        fun _ => HeldFrom.tail
    refine (first.andThen others).congr ?_
    intro policy texts
    exact runFrom_cons parent index action rest _

end

/-- A run consists of deeds of the script, and of none if the check rejects it. -/
theorem run_plays (backend : Backend σ) (delayMillis : Nat) (script : List Action)
    (bindings : List String) (before : σ) :
    Plays backend (Position.In script bindings.head?) bindings before
      fun policy => run backend ⟨delayMillis, policy⟩ script := by
  rcases verdict : checkLoops script with error | ⟨⟩
  · have unbound : error = ⟨error.path, .unboundLoop⟩ := by
      rw [← ((checkLoops_eq_error_iff script error).mp verdict).1]
    refine ⟨[], .error error, before, ⟨?_, .nil, ?_⟩, List.forall_mem_nil _⟩
    · intro policy texts
      rw [run, verdict, textsOf_nil, List.append_nil]
    · rw [unbound]
      exact .unbound error.path (List.forall_mem_nil _)
  · refine (runFrom_plays backend delayMillis .root 0 script bindings before).congr ?_
    intro policy texts
    rw [run, verdict]

end Execution

end Replay
