import Mathlib.Control.Monad.Basic
import Replay.Backend.DryRun
import Replay.Proofs.Execution.Log
import Replay.Proofs.Execution.Trace
import Replay.Proofs.Playbook

namespace Replay

structure Visit where
  action : Action
  token? : Option String
  deriving DecidableEq, Repr

mutual

/-- What a run reaches of an action under a token, with the loops written out in depth-first order and
the pause behind each turn. Either every body of an `exist` is entered or none is. -/
def Action.reached (entered : Bool) (delay : Nat) (token? : Option String) : Action → List Visit
  | .ifExists locator body =>
    ⟨.ifExists locator body, token?⟩ :: if entered then reachedAll entered delay token? body else []
  | .forEachToken source body =>
    (loopTokens (Template.render source token?)).flatMap fun token =>
      reachedAll entered delay (some token) body ++ [⟨.wait delay, token?⟩]
  | action => [⟨action, token?⟩]

def reachedAll (entered : Bool) (delay : Nat) (token? : Option String) : List Action → List Visit
  | [] => []
  | action :: rest => action.reached entered delay token? ++ reachedAll entered delay token? rest

end

namespace Visit

def pretendedText? (visit : Visit) : Option String :=
  match visit.action with
  | .readText locator _ => some s!"[text of {Template.render locator visit.token?}]"
  | _ => none

/-- What is noted about a text that is not there: its label, or else the one quoted in its locator. -/
def absenceNote? (visit : Visit) : Option String :=
  match visit.action with
  | .readText locator label =>
    let locator := Template.render locator visit.token?
    ((label.map (Template.render · visit.token?)).or (quotedLabel locator)).map
      (s!"{·} does not exist.")
  | _ => none

def text? (present : Bool) (policy : MissingText) (visit : Visit) : Option String :=
  if present then visit.pretendedText?
  else
    match policy with
    | .skip => none
    | .diagnostic => visit.absenceNote?

def calls (present : Bool) (visit : Visit) : List Call :=
  match visit.action with
  | .wait nanos => [.pause nanos]
  | .readText locator _ =>
    let locator := Template.render locator visit.token?
    .find locator :: if present then [.textOf locator] else []
  | action => (action.opening? visit.token?).toList

theorem textOf_not_mem_calls (visit : Visit) (element : String) :
    .textOf element ∉ visit.calls false := by
  obtain ⟨action, token?⟩ := visit
  cases action with
  | typeText locator text mode =>
    change Call.textOf element ∉ ((typedKeys? token? text mode).map _).toList
    cases typedKeys? token? text mode <;> simp
  | _ => simp [calls, Action.opening?]

end Visit

namespace DryRun

def pretended (present : Bool) : Call → Answer
  | .find locator => .found (if present then [⟨locator⟩] else [])
  | .textOf element => .text s!"[text of {element}]"
  | _ => .done

theorem answer_eq (run : DryRun) (call : Call) :
    backend.answer run call = pretended run.assumePresent call := by
  cases call <;> rfl

theorem assumePresent_perform (run : DryRun) (call : Call) :
    (backend.perform run call).assumePresent = run.assumePresent := by
  cases call <;> rfl

theorem answer_of_conversation {run final : DryRun} {exchanges : List Exchange}
    (talk : backend.Conversation run exchanges final) :
    ∀ exchange ∈ exchanges, exchange.answer = pretended run.assumePresent exchange.call := by
  induction talk with
  | nil => exact List.forall_mem_nil _
  | cons call rest ih =>
    rw [assumePresent_perform] at ih
    exact List.forall_mem_cons.mpr ⟨answer_eq _ call, ih⟩

structure Rehearses (present : Bool) (policy : MissingText) (visits : List Visit)
    (exchanges : List Exchange) (texts : List String) (ending : Ending) : Prop where
  completes : ending = .completed
  calls : exchanges.map Exchange.call = visits.flatMap (·.calls present)
  texts : texts = visits.filterMap (·.text? present policy)

namespace Rehearses

variable {present : Bool} {policy : MissingText} {visits more : List Visit}
  {exchanges others : List Exchange} {texts further : List String} {ending : Ending}

theorem nil : Rehearses present policy [] [] [] .completed := ⟨rfl, rfl, rfl⟩

theorem visit {visit : Visit} (made : exchanges.map Exchange.call = visit.calls present)
    (read : texts = (visit.text? present policy).toList) :
    Rehearses present policy [visit] exchanges texts .completed where
  completes := rfl
  calls := by rw [List.flatMap_singleton, made]
  texts := by
    rw [read, List.filterMap_cons]
    cases visit.text? present policy <;> rfl

theorem append (first : Rehearses present policy visits exchanges texts .completed)
    (rest : Rehearses present policy more others further ending) :
    Rehearses present policy (visits ++ more) (exchanges ++ others) (texts ++ further) ending where
  completes := rest.completes
  calls := by rw [List.map_append, List.flatMap_append, first.calls, rest.calls]
  texts := by rw [List.filterMap_append, first.texts, rest.texts]

end Rehearses

variable {present : Bool}

theorem rehearses_pause (present : Bool) (policy : MissingText) (nanos : Nat)
    (token? : Option String) :
    Rehearses present policy [⟨.wait nanos, token?⟩] [⟨.pause nanos, .done⟩] [] .completed := by
  refine .visit rfl ?_
  cases present <;> cases policy <;> rfl

theorem rehearses_acted {delay : Nat} {token? : Option String} {action : Action} {call : Call}
    (policy : MissingText) (opens : action.opening? token? = some call)
    (answered : pretended present call = .done) :
    Rehearses present policy (action.reached present delay token?) [⟨call, .done⟩] [] .completed := by
  cases action with
  | readText locator label =>
    obtain rfl := Option.some.inj opens
    cases answered
  | ifExists locator body =>
    obtain rfl := Option.some.inj opens
    cases answered
  | wait nanos => cases opens
  | forEachToken source body => cases opens
  | typeText locator text mode =>
    refine .visit ?_ ?_
    · exact (congrArg Option.toList opens).symm
    · cases present <;> cases policy <;> rfl
  | _ =>
    obtain rfl := Option.some.inj opens
    refine .visit rfl ?_
    cases present <;> cases policy <;> rfl

theorem pretended_find_nil {locator : String} (answered : .found [] = pretended present (.find locator)) :
    present = false := by
  cases present with
  | false => rfl
  | true => cases answered

theorem pretended_find_cons {locator : String} {element : Element} {others : List Element}
    (answered : .found (element :: others) = pretended present (.find locator)) :
    present = true ∧ element = ⟨locator⟩ := by
  cases present with
  | false => cases answered
  | true =>
    cases answered
    exact ⟨rfl, rfl⟩

end DryRun

section Traces

open DryRun

variable {settings : RunSettings}

mutual

/-- Under the answers of a dry run, an action has the one trace of its visits. -/
theorem StepTrace.rehearses {present : Bool} {token? : Option String} {path : Path}
    {action : Action} {exchanges : List Exchange} {texts : List String} {ending : Ending}
    (trace : StepTrace settings token? path action exchanges texts ending)
    (answers : ∀ exchange ∈ exchanges, exchange.answer = pretended present exchange.call) :
    Rehearses present settings.missingText
      (action.reached present (Duration.ofMillis settings.loopDelayMillis) token?) exchanges texts
      ending :=
  match trace with
  | .acted opens => rehearses_acted settings.missingText opens (answers _ List.mem_cons_self).symm
  | @StepTrace.refused _ _ _ _ call error _ => by
    have answered := answers _ List.mem_cons_self
    cases call <;> cases answered
  | .paused nanos => rehearses_pause present settings.missingText nanos token?
  | .missed locator label => by
    obtain rfl := pretended_find_nil (answers _ List.mem_cons_self)
    refine .visit rfl ?_
    cases settings.missingText <;> rfl
  | .read locator label element others text => by
    obtain ⟨found, answered⟩ := List.forall_mem_cons.mp answers
    obtain ⟨rfl, rfl⟩ := pretended_find_cons found
    obtain rfl : text = _ := Answer.text.inj (answered _ List.mem_cons_self)
    exact .visit rfl rfl
  | .unreadable locator label element others error => by
    cases answers _ (List.mem_cons_of_mem _ List.mem_cons_self)
  | .absent locator body => by
    obtain rfl := pretended_find_nil (answers _ List.mem_cons_self)
    refine .visit rfl ?_
    cases settings.missingText <;> rfl
  | .entered locator element others inside => by
    obtain ⟨found, answered⟩ := List.forall_mem_cons.mp answers
    obtain ⟨rfl, rfl⟩ := pretended_find_cons found
    have guard : ∀ body elements, Rehearses true settings.missingText
        [⟨.ifExists locator body, token?⟩]
        [⟨.find (Template.render locator token?), .found elements⟩] [] .completed :=
      fun _ _ => .visit rfl rfl
    exact (guard _ _).append (inside.rehearses answered)
  | .looped turns => turns.rehearses token? answers

theorem ListTrace.rehearses {present : Bool} {token? : Option String} {parent : Path}
    {index : Nat} {actions : List Action} {exchanges : List Exchange} {texts : List String} {ending : Ending}
    (trace : ListTrace settings token? parent index actions exchanges texts ending)
    (answers : ∀ exchange ∈ exchanges, exchange.answer = pretended present exchange.call) :
    Rehearses present settings.missingText
      (reachedAll present (Duration.ofMillis settings.loopDelayMillis) token? actions) exchanges texts
      ending :=
  match trace with
  | .nil => .nil
  | .cons first rest => by
    obtain ⟨before, behind⟩ := List.forall_mem_append.mp answers
    exact (first.rehearses before).append (rest.rehearses behind)
  | .stopped first => nomatch (first.rehearses answers).completes

theorem TurnsTrace.rehearses {present : Bool} {path : Path} {body : List Action}
    {tokens : List String} {exchanges : List Exchange} {texts : List String} {ending : Ending}
    (trace : TurnsTrace settings path body tokens exchanges texts ending) (token? : Option String)
    (answers : ∀ exchange ∈ exchanges, exchange.answer = pretended present exchange.call) :
    Rehearses present settings.missingText
      (tokens.flatMap fun token =>
        reachedAll present (Duration.ofMillis settings.loopDelayMillis) (some token) body ++
          [⟨.wait (Duration.ofMillis settings.loopDelayMillis), token?⟩]) exchanges texts ending :=
  match trace with
  | .nil => .nil
  | .cons first rest => by
    obtain ⟨before, others⟩ := List.forall_mem_append.mp answers
    obtain ⟨_, behind⟩ := List.forall_mem_cons.mp others
    have pause := rehearses_pause present settings.missingText
      (Duration.ofMillis settings.loopDelayMillis) token?
    have turns := (first.rehearses before).append (pause.append (rest.rehearses token? behind))
    rw [← List.append_assoc] at turns
    exact turns
  | .stopped first => nomatch (first.rehearses answers).completes

end

end Traces

namespace Playbook

/-- A dry run of a list that loads comes to its end. It makes the calls of the actions reached, and no
others. If everything is taken to be present, every body of an `exist` is entered and each `text` action
reached reads a text made from its rendered locator. If nothing is, no body is entered, no text is read,
and what is noted is nothing, or one line for each `text` action reached that has a label. -/
theorem run_dryRun_of_load {playbook : Playbook} {name key : String} {script : List Action}
    (loaded : playbook.load name key = .ok script) (dry : DryRun) :
    let visits := reachedAll dry.assumePresent (Duration.ofMillis playbook.settings.loopDelayMillis)
      none script
    let calls := (playbook.run DryRun.backend.logged name key (dry, [])).2.2
    ∃ texts, (playbook.run DryRun.backend name key dry).1 = .ok texts ∧
      calls = visits.flatMap (·.calls dry.assumePresent) ∧
      (dry.assumePresent = true → texts = visits.filterMap Visit.pretendedText?) ∧
      (dry.assumePresent = false →
        (∀ element, .textOf element ∉ calls) ∧
        (playbook.settings.missingText = .skip → texts = []) ∧
        (playbook.settings.missingText = .diagnostic → texts = visits.filterMap Visit.absenceNote?)) := by
  intro visits calls
  obtain ⟨_, _, _, _, _, accepted⟩ := load_eq_ok_iff.mp loaded
  obtain ⟨exchanges, texts, ending, talk, grown, verdict, trace⟩ :=
    Execution.run_traced DryRun.backend.logged playbook.settings accepted (.start (dry, [])) rfl
  obtain ⟨asked, plain⟩ := talk.of_logged
  obtain ⟨rfl, made, read⟩ := trace.rehearses (DryRun.answer_of_conversation plain)
  rcases ended : Execution.run DryRun.backend.logged playbook.settings script (.start (dry, []))
    with ⟨result, session⟩
  rw [ended] at asked grown verdict
  obtain rfl : result = .ok () := verdict
  have logged : playbook.run DryRun.backend.logged name key (dry, []) =
      (.ok session.texts, session.backend) := by
    simp only [run, loaded, ended]
  have called : calls = visits.flatMap (·.calls dry.assumePresent) := by
    have log : calls = session.backend.2 := congrArg (·.2.2) logged
    exact log.trans (asked.trans made)
  have collected : session.texts = visits.filterMap
      (·.text? dry.assumePresent playbook.settings.missingText) := grown.trans read
  refine ⟨session.texts, ?_, called, ?_, ?_⟩
  · rw [playbook.run_logged DryRun.backend name key (dry, []), logged]
  · intro present
    rw [collected, present]
    rfl
  · intro absent
    rw [absent] at called collected
    refine ⟨?_, ?_, ?_⟩
    · intro element member
      rw [called, List.mem_flatMap] at member
      obtain ⟨visit, _, within⟩ := member
      exact visit.textOf_not_mem_calls element within
    · intro skips
      rw [collected, skips]
      exact List.filterMap_eq_nil_iff.mpr fun _ _ => rfl
    · intro notes
      rw [collected, notes]
      rfl

def readingList : Playbook :=
  ⟨(∅ : Store).insert "Lists" "read"
    "[[\"for\", \"a, b\", [[\"exist\", \"#$\x7bloop\x7d\", [[\"text\", \"//p[. = '$\x7bloop\x7d']\"]]]]],
      [\"text\", \"#sum\", \"Total\"]]",
    { missingText := .diagnostic }⟩

def readingScript : List Action :=
  [.forEachToken "a, b" [.ifExists "#$\x7bloop\x7d" [.readText "//p[. = '$\x7bloop\x7d']" none]],
    .readText "#sum" (some "Total")]

/-- With everything present the guarded text is read in both turns; with nothing present only the text
behind the loop is missed. -/
theorem run_dryRun_of_load_readingList :
    readingList.load "Lists" "read" = .ok readingScript ∧
      (readingList.run DryRun.backend "Lists" "read" (.start true)).1 =
        .ok ["[text of //p[. = 'a']]", "[text of //p[. = 'b']]", "[text of #sum]"] ∧
      (readingList.run DryRun.backend "Lists" "read" (.start false)).1 =
        .ok ["Total does not exist."] := by
  have loaded : readingList.load "Lists" "read" = .ok readingScript := by decide +kernel
  obtain ⟨texts, ran, _, present, _⟩ := run_dryRun_of_load loaded (.start true)
  obtain ⟨notes, rehearsed, _, _, absent⟩ := run_dryRun_of_load loaded (.start false)
  have read : (reachedAll true (Duration.ofMillis 1000) none readingScript).filterMap
      Visit.pretendedText? =
        ["[text of //p[. = 'a']]", "[text of //p[. = 'b']]", "[text of #sum]"] := by decide +kernel
  have noted : (reachedAll false (Duration.ofMillis 1000) none readingScript).filterMap
      Visit.absenceNote? = ["Total does not exist."] := by decide +kernel
  refine ⟨loaded, ?_, ?_⟩
  · rw [ran]
    exact congrArg Except.ok ((present rfl).trans read)
  · rw [rehearsed]
    exact congrArg Except.ok (((absent rfl).2.2 rfl).trans noted)

end Playbook

end Replay
