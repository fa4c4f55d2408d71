import Replay.ScriptError

/-!
The check before a run: outside the bodies of `for`, no action may type the token of a loop or hold
its placeholder in a text of its own.
-/

namespace Replay

def Action.needsLoop (action : Action) : Bool :=
  (match action with
    | .typeText _ _ .loop => true
    | _ => false) ||
  action.ownTexts.any Template.mentionsLoop

mutual

def Action.checkLoop (inLoop : Bool) (path : Path) (action : Action) : Except ScriptError Unit :=
  if !inLoop && action.needsLoop then .error ⟨path, .unboundLoop⟩
  else
    match action with
    | .ifExists _ body => checkLoopFrom inLoop path 0 body
    | .forEachToken _ body => checkLoopFrom true path 0 body
    | _ => .ok ()

def checkLoopFrom (inLoop : Bool) (parent : Path) (index : Nat) :
    List Action → Except ScriptError Unit
  | [] => .ok ()
  | action :: rest => do
    action.checkLoop inLoop (parent.child index)
    checkLoopFrom inLoop parent (index + 1) rest

end

/-- Finds the first action, in document order, that needs a loop around it and has none. -/
def checkLoops (script : List Action) : Except ScriptError Unit :=
  checkLoopFrom false .root 0 script

end Replay
