import Replay.Playbook
import Replay.Proofs.Template.References

namespace Replay

mutual

/-- The last two actions are the first with its texts replaced: the command, the mode, the duration, the
presence of a label and the shape of the body are kept, and `R` relates each text to its replacements. -/
inductive Action.Replaced (R : String → String → String → Prop) : Action → Action → Action → Prop
  | navigate {url url₁ url₂ : String} : R url url₁ url₂ →
      Action.Replaced R (.navigate url) (.navigate url₁) (.navigate url₂)
  | click {locator locator₁ locator₂ : String} : R locator locator₁ locator₂ →
      Action.Replaced R (.click locator) (.click locator₁) (.click locator₂)
  | clear {locator locator₁ locator₂ : String} : R locator locator₁ locator₂ →
      Action.Replaced R (.clear locator) (.clear locator₁) (.clear locator₂)
  | typeText {locator locator₁ locator₂ text text₁ text₂ : String} {mode : TypingMode} :
      R locator locator₁ locator₂ → R text text₁ text₂ →
      Action.Replaced R (.typeText locator text mode) (.typeText locator₁ text₁ mode)
        (.typeText locator₂ text₂ mode)
  | wait {nanos : Nat} : Action.Replaced R (.wait nanos) (.wait nanos) (.wait nanos)
  | refresh : Action.Replaced R .refresh .refresh .refresh
  | unlabelled {locator locator₁ locator₂ : String} : R locator locator₁ locator₂ →
      Action.Replaced R (.readText locator none) (.readText locator₁ none) (.readText locator₂ none)
  | labelled {locator locator₁ locator₂ label label₁ label₂ : String} :
      R locator locator₁ locator₂ → R label label₁ label₂ →
      Action.Replaced R (.readText locator (some label)) (.readText locator₁ (some label₁))
        (.readText locator₂ (some label₂))
  | ifExists {locator locator₁ locator₂ : String} {body body₁ body₂ : List Action} :
      R locator locator₁ locator₂ → ReplacedAll R body body₁ body₂ →
      Action.Replaced R (.ifExists locator body) (.ifExists locator₁ body₁) (.ifExists locator₂ body₂)
  | forEachToken {source source₁ source₂ : String} {body body₁ body₂ : List Action} :
      R source source₁ source₂ → ReplacedAll R body body₁ body₂ →
      Action.Replaced R (.forEachToken source body) (.forEachToken source₁ body₁)
        (.forEachToken source₂ body₂)

inductive ReplacedAll (R : String → String → String → Prop) :
    List Action → List Action → List Action → Prop
  | nil : ReplacedAll R [] [] []
  | cons {action action₁ action₂ : Action} {rest rest₁ rest₂ : List Action} :
      Action.Replaced R action action₁ action₂ → ReplacedAll R rest rest₁ rest₂ →
      ReplacedAll R (action :: rest) (action₁ :: rest₁) (action₂ :: rest₂)

end

mutual

theorem Action.Replaced.mono {R S : String → String → String → Prop} {action action₁ action₂ : Action}
    (weaker : ∀ raw text text', R raw text text' → S raw text text') :
    Action.Replaced R action action₁ action₂ → Action.Replaced S action action₁ action₂
  | .navigate related => .navigate (weaker _ _ _ related)
  | .click related => .click (weaker _ _ _ related)
  | .clear related => .clear (weaker _ _ _ related)
  | .typeText first second => .typeText (weaker _ _ _ first) (weaker _ _ _ second)
  | .wait => .wait
  | .refresh => .refresh
  | .unlabelled related => .unlabelled (weaker _ _ _ related)
  | .labelled first second => .labelled (weaker _ _ _ first) (weaker _ _ _ second)
  | .ifExists related body => .ifExists (weaker _ _ _ related) (body.mono weaker)
  | .forEachToken related body => .forEachToken (weaker _ _ _ related) (body.mono weaker)

theorem ReplacedAll.mono {R S : String → String → String → Prop} {script script₁ script₂ : List Action}
    (weaker : ∀ raw text text', R raw text text' → S raw text text') :
    ReplacedAll R script script₁ script₂ → ReplacedAll S script script₁ script₂
  | .nil => .nil
  | .cons first rest => .cons (first.mono weaker) (rest.mono weaker)

end

section Visit

variable {ε : Type} {E : ε → ε → Prop} {R : String → String → String → Prop}
  {f g : String → Path → Except ε String}

mutual

theorem Action.mapTexts_parallel (agree : ∀ raw path, Parallel E (R raw) (f raw path) (g raw path))
    (path : Path) : (action : Action) →
    Parallel E (Action.Replaced R action) (action.mapTexts f path) (action.mapTexts g path)
  | .navigate url => by
    rw [Action.mapTexts, Action.mapTexts]
    exact (agree url path).bind fun _ _ related => .pure (.navigate related)
  | .click locator => by
    rw [Action.mapTexts, Action.mapTexts]
    exact (agree locator path).bind fun _ _ related => .pure (.click related)
  | .clear locator => by
    rw [Action.mapTexts, Action.mapTexts]
    exact (agree locator path).bind fun _ _ related => .pure (.clear related)
  | .typeText locator text mode => by
    rw [Action.mapTexts, Action.mapTexts]
    refine (agree locator path).bind fun _ _ first => ?_
    exact (agree text path).bind fun _ _ second => .pure (.typeText first second)
  | .wait nanos => by
    rw [Action.mapTexts, Action.mapTexts]
    exact .pure .wait
  | .refresh => by
    rw [Action.mapTexts, Action.mapTexts]
    exact .pure .refresh
  | .readText locator none => by
    rw [Action.mapTexts, Action.mapTexts]
    exact (agree locator path).bind fun _ _ related => .pure (.unlabelled related)
  | .readText locator (some label) => by
    rw [Action.mapTexts, Action.mapTexts]
    refine (agree locator path).bind fun _ _ first => ?_
    exact (agree label path).bind fun _ _ second => .pure (.labelled first second)
  | .ifExists locator body => by
    rw [Action.mapTexts, Action.mapTexts]
    refine (agree locator path).bind fun _ _ first => ?_
    exact (mapTextsFrom_parallel agree path 0 body).bind fun _ _ rest => .pure (.ifExists first rest)
  | .forEachToken source body => by
    rw [Action.mapTexts, Action.mapTexts]
    refine (agree source path).bind fun _ _ first => ?_
    exact (mapTextsFrom_parallel agree path 0 body).bind fun _ _ rest =>
      .pure (.forEachToken first rest)

theorem mapTextsFrom_parallel (agree : ∀ raw path, Parallel E (R raw) (f raw path) (g raw path))
    (parent : Path) (index : Nat) : (script : List Action) →
    Parallel E (ReplacedAll R script) (mapTextsFrom f parent index script)
      (mapTextsFrom g parent index script)
  | [] => by
    rw [mapTextsFrom, mapTextsFrom]
    exact .pure .nil
  | action :: rest => by
    rw [mapTextsFrom, mapTextsFrom]
    refine (action.mapTexts_parallel agree (parent.child index)).bind fun _ _ first => ?_
    exact (mapTextsFrom_parallel agree parent (index + 1) rest).bind fun _ _ others =>
      .pure (.cons first others)

end

end Visit

section LoopCheck

variable {R : String → String → String → Prop} {action action₁ action₂ : Action}
  {script script₁ script₂ : List Action}

theorem Action.Replaced.needsLoop_eq
    (mentions : ∀ raw text text', R raw text text' →
      Template.mentionsLoop text = Template.mentionsLoop text')
    (replaced : Action.Replaced R action action₁ action₂) : action₁.needsLoop = action₂.needsLoop := by
  cases replaced with
  | wait => rfl
  | refresh => rfl
  | @typeText _ _ _ _ _ _ mode first second =>
    cases mode <;>
      simp [Action.needsLoop, Action.ownTexts, mentions _ _ _ first, mentions _ _ _ second]
  | labelled first second =>
    simp [Action.needsLoop, Action.ownTexts, mentions _ _ _ first, mentions _ _ _ second]
  | navigate related | click related | clear related | unlabelled related | ifExists related _
  | forEachToken related _ =>
    simp [Action.needsLoop, Action.ownTexts, mentions _ _ _ related]

mutual

theorem Action.Replaced.checkLoop_eq
    (mentions : ∀ raw text text', R raw text text' →
      Template.mentionsLoop text = Template.mentionsLoop text')
    (inLoop : Bool) (path : Path) {action action₁ action₂ : Action} :
    Action.Replaced R action action₁ action₂ →
    action₁.checkLoop inLoop path = action₂.checkLoop inLoop path
  | replaced => by
    have needs := replaced.needsLoop_eq mentions
    cases replaced with
    | ifExists related body =>
      rw [Action.checkLoop, Action.checkLoop, needs, body.checkLoopFrom_eq mentions inLoop path 0]
    | forEachToken related body =>
      rw [Action.checkLoop, Action.checkLoop, needs, body.checkLoopFrom_eq mentions true path 0]
    | _ => simp only [Action.checkLoop, needs]

theorem ReplacedAll.checkLoopFrom_eq
    (mentions : ∀ raw text text', R raw text text' →
      Template.mentionsLoop text = Template.mentionsLoop text')
    (inLoop : Bool) (parent : Path) (index : Nat) {script script₁ script₂ : List Action} :
    ReplacedAll R script script₁ script₂ →
    checkLoopFrom inLoop parent index script₁ = checkLoopFrom inLoop parent index script₂
  | .nil => rfl
  | .cons first rest => by
    rw [checkLoopFrom, checkLoopFrom, first.checkLoop_eq mentions inLoop (parent.child index),
      rest.checkLoopFrom_eq mentions inLoop parent (index + 1)]

end

end LoopCheck

/-- The values of a store never decide what a script is. With stores that define the same references
resolution fails at the same action for the same reference, or gives scripts of one shape, which differ
at most where the raw text refers to the store, and on which the check for loops gives one verdict. -/
theorem resolveScript_same_references {left right : Store} (same : SameReferences left right)
    (script : List Action) :
    Parallel
      (fun error error' => error = error' ∧ ∃ reference, error.cause = .unresolved reference)
      (fun resolved resolved' =>
        ReplacedAll (fun raw text text' => Template.refersToStore raw = false → text = text')
          script resolved resolved' ∧
        checkLoops resolved = checkLoops resolved')
      (resolveScript left script) (resolveScript right script) := by
  let R (raw text text' : String) : Prop :=
    Template.mentionsLoop text = Template.mentionsLoop text' ∧
      (Template.refersToStore raw = false → text = text')
  refine Parallel.mono (mapTextsFrom_parallel (R := R) ?_ .root 0 script)
    (fun _ _ errors => errors) ?_
  · intro raw path
    rcases (Template.resolve_parallel same raw).cases with
      ⟨reference, _, first, second, rfl⟩ | ⟨template, template', first, second, related⟩
    · rw [first, second]
      exact ⟨rfl, reference, rfl⟩
    · rw [first, second]
      exact related
  · intro resolved resolved' replaced
    refine ⟨replaced.mono fun raw text text' related => related.2, ?_⟩
    exact replaced.checkLoopFrom_eq (fun raw text text' related => related.1) false .root 0

/-- A value that reads like the placeholder makes no difference. -/
theorem resolveScript_same_references_of_placeholder :
    SameReferences ((∅ : Store).insert "A" "b" "x") ((∅ : Store).insert "A" "b" "$\x7bloop\x7d") ∧
      (resolveScript ((∅ : Store).insert "A" "b" "$\x7bloop\x7d")
        [.ifExists "#a" [.click "$\x7bA:b\x7d"]]).map checkLoops =
      (resolveScript ((∅ : Store).insert "A" "b" "x")
        [.ifExists "#a" [.click "$\x7bA:b\x7d"]]).map checkLoops := by
  have same : SameReferences ((∅ : Store).insert "A" "b" "x")
      ((∅ : Store).insert "A" "b" "$\x7bloop\x7d") := by
    intro name key
    have absent (other : String) : (∅ : Store).sections.get? other = none := rfl
    simp only [Store.get?, Store.own?, Store.insert, Store.defaultSection, Dict.get?_insert, absent]
    by_cases here : name = "A"
    · by_cases found : normalKey key = normalKey "b" <;> simp [here, found, Dict.get?_insert]
    · simp [here]
  refine ⟨same, ?_⟩
  rcases (resolveScript_same_references same [.ifExists "#a" [.click "$\x7bA:b\x7d"]]).cases with
    ⟨error, _, first, second, rfl, _⟩ | ⟨resolved, resolved', first, second, _, verdict⟩
  · rw [first, second]
  · rw [first, second]
    exact congrArg Except.ok verdict.symm

end Replay
