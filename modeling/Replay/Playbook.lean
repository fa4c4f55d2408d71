import Replay.Execution
import Replay.Script

/-!
Playbooks: a store that holds action lists as text, and the settings to run them with. A list is
fetched, read, resolved and checked before its first call.
-/

namespace Replay

structure Playbook where
  store : Store
  settings : RunSettings
  deriving DecidableEq, Repr

inductive ListError
  | unknownList (name key : String)
  | malformed (key : String) (error : ScriptError)
  | unresolved (key : String) (error : ScriptError)
  | invalid (key : String) (error : ScriptError)
  | failed (key : String) (error : ScriptError)
  deriving DecidableEq, Repr

namespace ListError

def scriptError? : ListError → Option ScriptError
  | unknownList _ _ => none
  | malformed _ error => some error
  | unresolved _ error => some error
  | invalid _ error => some error
  | failed _ error => some error

def chain : ListError → List String
  | unknownList name key => [s!"Unknown action list '{key}' in section [{name}]"]
  | malformed key error => [s!"Action list '{key}' is malformed", error.message]
  | unresolved key error => [s!"Action list '{key}' has unresolved references", error.message]
  | invalid key error => [s!"Action list '{key}' is invalid", error.message]
  | failed key error => [s!"Action list '{key}' failed", error.message]

end ListError

def resolveScript (store : Store) (script : List Action) : Except ScriptError (List Action) :=
  mapTexts (fun raw path =>
    match Template.resolve store raw with
    | .ok template => .ok template
    | .error reference => .error ⟨path, .unresolved reference⟩) .root script

namespace Playbook

variable {σ : Type}

def load (playbook : Playbook) (name key : String) : Except ListError (List Action) :=
  match playbook.store.get? name key with
  | none => .error (.unknownList name key)
  | some raw =>
    match Script.ofText raw with
    | .error error => .error (.malformed key error)
    | .ok parsed =>
      match resolveScript playbook.store parsed with
      | .error error => .error (.unresolved key error)
      | .ok resolved =>
        match checkLoops resolved with
        | .error error => .error (.invalid key error)
        | .ok () => .ok resolved

def run (playbook : Playbook) (backend : Backend σ) (name key : String) (state : σ) :
    Except ListError (List String) × σ :=
  match playbook.load name key with
  | .error error => (.error error, state)
  | .ok script =>
    match Execution.run backend playbook.settings script (.start state) with
    | (.ok (), session) => (.ok session.texts, session.backend)
    | (.error error, session) => (.error (.failed key error), session.backend)

/-- Runs lists one after the other on one backend, up to the first that fails. -/
def runAll (playbook : Playbook) (backend : Backend σ) (name : String) :
    List String → σ → Except ListError (List (String × List String)) × σ
  | [], state => (.ok [], state)
  | key :: rest, state =>
    match playbook.run backend name key state with
    | (.error error, state) => (.error error, state)
    | (.ok texts, state) =>
      match playbook.runAll backend name rest state with
      | (.error error, state) => (.error error, state)
      | (.ok results, state) => (.ok ((key, texts) :: results), state)

end Playbook

end Replay
