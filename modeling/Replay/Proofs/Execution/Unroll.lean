import Replay.Proofs.Execution.Sequence
import Replay.Proofs.Template.Scan

/-!
Unrolling. The loops of a script can be written out: the body once per token, with the token put into
its texts, and a wait behind each turn. The unrolled script holds no loop and needs none.
-/

namespace Replay

namespace Template

def literal (text : String) : String := String.ofList (escape text.toList)

def settle (binding : Option String) (template : String) : String := literal (render template binding)

theorem render_literal (binding : Option String) (text : String) :
    render (literal text) binding = text := by
  rw [render, literal, String.toList_ofList, render_escape, String.ofList_toList]

theorem render_settle (binding other : Option String) (template : String) :
    render (settle binding template) other = render template binding :=
  render_literal other (render template binding)

theorem mentionsLoop_literal (text : String) : mentionsLoop (literal text) = false := by
  rw [mentionsLoop, literal, String.toList_ofList, mentionsLoop_escape]

theorem mentionsLoop_settle (binding : Option String) (template : String) :
    mentionsLoop (settle binding template) = false :=
  mentionsLoop_literal (render template binding)

end Template

open Template

def unrollTyping (binding : Option String) (locator text : String) (mode : TypingMode) : Action :=
  match mode, binding with
  | .loop, some token => .typeText (settle binding locator) (literal token) .literal
  | mode, _ => .typeText (settle binding locator) (settle binding text) mode

mutual

def Action.unroll (delay : Nat) (binding : Option String) : Action → List Action
  | .navigate url => [.navigate (settle binding url)]
  | .click locator => [.click (settle binding locator)]
  | .clear locator => [.clear (settle binding locator)]
  | .typeText locator text mode => [unrollTyping binding locator text mode]
  | .wait nanos => [.wait nanos]
  | .refresh => [.refresh]
  | .readText locator label => [.readText (settle binding locator) (label.map (settle binding))]
  | .ifExists locator body => [.ifExists (settle binding locator) (unrollAll delay binding body)]
  | .forEachToken source body =>
    (loopTokens (render source binding)).flatMap fun token =>
      unrollAll delay (some token) body ++ [.wait delay]

def unrollAll (delay : Nat) (binding : Option String) : List Action → List Action
  | [] => []
  | action :: rest => action.unroll delay binding ++ unrollAll delay binding rest

end

mutual

/-- The action holds no loop and needs none. -/
def Action.loopFree (action : Action) : Bool :=
  !action.needsLoop &&
    match action with
    | .ifExists _ body => loopFreeAll body
    | .forEachToken _ _ => false
    | _ => true

def loopFreeAll : List Action → Bool
  | [] => true
  | action :: rest => action.loopFree && loopFreeAll rest

end

theorem loopFreeAll_append (front back : List Action) :
    loopFreeAll (front ++ back) = (loopFreeAll front && loopFreeAll back) := by
  induction front with
  | nil => rfl
  | cons action front ih => rw [List.cons_append, loopFreeAll, loopFreeAll, ih, Bool.and_assoc]

theorem loopFreeAll_singleton (action : Action) : loopFreeAll [action] = action.loopFree :=
  Bool.and_true action.loopFree

theorem needsLoop_eq_false_of_loopFree {action : Action} (free : action.loopFree = true) :
    action.needsLoop = false := by
  rw [Action.loopFree.eq_def, Bool.and_eq_true] at free
  simpa using free.1

mutual

theorem Action.checkLoop_of_loopFree (inLoop : Bool) (path : Path) :
    (action : Action) → action.loopFree = true → action.checkLoop inLoop path = .ok ()
  | .navigate _, free | .click _, free | .clear _, free | .typeText _ _ _, free | .wait _, free
  | .refresh, free | .readText _ _, free => by
    simp [Action.checkLoop, needsLoop_eq_false_of_loopFree free]
  | .ifExists locator body, free => by
    have unneeded := needsLoop_eq_false_of_loopFree free
    rw [Action.loopFree, unneeded] at free
    rw [Action.checkLoop, unneeded, Bool.and_false]
    exact checkLoopFrom_of_loopFree inLoop path 0 body free
  | .forEachToken source body, free => by simp [Action.loopFree] at free

theorem checkLoopFrom_of_loopFree (inLoop : Bool) (parent : Path) (index : Nat) :
    (actions : List Action) → loopFreeAll actions = true →
    checkLoopFrom inLoop parent index actions = .ok ()
  | [], _ => rfl
  | action :: rest, free => by
    obtain ⟨first, others⟩ := Bool.and_eq_true_iff.mp free
    refine checkLoopFrom_cons_ok.mpr ⟨?_, ?_⟩
    · exact action.checkLoop_of_loopFree inLoop (parent.child index) first
    · exact checkLoopFrom_of_loopFree inLoop parent (index + 1) rest others

end

theorem loopFreeAll_turns (delay : Nat) {actions : String → List Action} (tokens : List String)
    (each : ∀ token, loopFreeAll (actions token) = true) :
    loopFreeAll (tokens.flatMap fun token => actions token ++ [.wait delay]) = true := by
  induction tokens with
  | nil => rfl
  | cons token rest ih =>
    rw [List.flatMap_cons, loopFreeAll_append, loopFreeAll_append, each token, ih]
    rfl

mutual

theorem Action.loopFree_unroll (delay : Nat) (binding : Option String) (path : Path) :
    (action : Action) → action.checkLoop binding.isSome path = .ok () →
    loopFreeAll (action.unroll delay binding) = true
  | .navigate url, _ | .click locator, _ | .clear locator, _ | .wait nanos, _ | .refresh, _ => by
    rw [Action.unroll, loopFreeAll_singleton]
    simp [Action.loopFree, Action.needsLoop, Action.ownTexts, mentionsLoop_settle]
  | .typeText locator text .literal, _ | .typeText locator text .submit, _ => by
    rw [Action.unroll, loopFreeAll_singleton]
    simp [unrollTyping, Action.loopFree, Action.needsLoop, Action.ownTexts, mentionsLoop_settle]
  | .typeText locator text .loop, accepted => by
    obtain ⟨token, rfl⟩ := Option.isSome_iff_exists.mp (inLoop_of_checkLoop accepted)
    rw [Action.unroll, loopFreeAll_singleton]
    simp [unrollTyping, Action.loopFree, Action.needsLoop, Action.ownTexts, mentionsLoop_settle,
      mentionsLoop_literal]
  | .readText locator label, _ => by
    rw [Action.unroll, loopFreeAll_singleton]
    cases label <;> simp [Action.loopFree, Action.needsLoop, Action.ownTexts, mentionsLoop_settle]
  | .ifExists locator body, accepted => by
    have inside := loopFreeAll_unrollAll delay binding path 0 body (checkLoopFrom_of_ifExists accepted)
    rw [Action.unroll, loopFreeAll_singleton]
    simp [Action.loopFree, Action.needsLoop, Action.ownTexts, mentionsLoop_settle, inside]
  | .forEachToken source body, accepted => by
    rw [Action.unroll]
    refine loopFreeAll_turns delay _ fun token => ?_
    exact loopFreeAll_unrollAll delay (some token) path 0 body (checkLoopFrom_of_forEachToken accepted)

theorem loopFreeAll_unrollAll (delay : Nat) (binding : Option String) (parent : Path) (index : Nat) :
    (actions : List Action) → checkLoopFrom binding.isSome parent index actions = .ok () →
    loopFreeAll (unrollAll delay binding actions) = true
  | [], _ => by
    rw [unrollAll]
    rfl
  | action :: rest, accepted => by
    obtain ⟨first, others⟩ := checkLoopFrom_cons_ok.mp accepted
    rw [unrollAll, loopFreeAll_append, action.loopFree_unroll delay binding _ first,
      loopFreeAll_unrollAll delay binding parent (index + 1) rest others]
    rfl

end

end Replay
