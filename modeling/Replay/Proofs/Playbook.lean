import Replay.Backend.Recording
import Replay.CommandLine
import Replay.Proofs.Execution.Regular

namespace Replay.Playbook

variable {σ : Type} {playbook : Playbook} {backend : Backend σ} {name key : String} {state : σ}

def Loads (playbook : Playbook) (name key : String) : Prop := (playbook.load name key).isOk = true

instance : Decidable (playbook.Loads name key) := inferInstanceAs (Decidable (_ = true))

def FailsInBackend (keys : List String) (error : ListError) : Prop :=
  ∃ key ∈ keys, ∃ path answer, error = .failed key ⟨path, .backend answer⟩

/-- The results of running the lists, each on the state that the one before it left. -/
inductive RunsAll (playbook : Playbook) (backend : Backend σ) (name : String) :
    List String → σ → List (String × List String) → σ → Prop
  | nil {state : σ} : RunsAll playbook backend name [] state [] state
  | cons {key : String} {rest : List String} {texts : List String}
      {results : List (String × List String)} {state middle final : σ} :
      playbook.run backend name key state = (.ok texts, middle) →
      RunsAll playbook backend name rest middle results final →
      RunsAll playbook backend name (key :: rest) state ((key, texts) :: results) final

theorem RunsAll.keys {keys : List String} {results : List (String × List String)} {final : σ}
    (runs : RunsAll playbook backend name keys state results final) :
    results.map Prod.fst = keys := by
  induction runs with
  | nil => rfl
  | cons _ _ ih => rw [List.map_cons, ih]

theorem Loads.exists_script (loads : playbook.Loads name key) :
    ∃ script, playbook.load name key = .ok script := by
  rw [Loads] at loads
  cases loaded : playbook.load name key with
  | error error =>
    rw [loaded] at loads
    cases loads
  | ok script => exact ⟨script, rfl⟩

theorem load_eq_ok_iff {script : List Action} :
    playbook.load name key = .ok script ↔
      ∃ raw parsed, playbook.store.get? name key = some raw ∧ Script.ofText raw = .ok parsed ∧
        resolveScript playbook.store parsed = .ok script ∧ checkLoops script = .ok () := by
  constructor
  · intro loaded
    rw [load] at loaded
    cases found : playbook.store.get? name key with
    | none => simp only [found, reduceCtorEq] at loaded
    | some raw =>
      cases read : Script.ofText raw with
      | error error => simp only [found, read, reduceCtorEq] at loaded
      | ok parsed =>
        cases resolved : resolveScript playbook.store parsed with
        | error error => simp only [found, read, resolved, reduceCtorEq] at loaded
        | ok result =>
          cases accepted : checkLoops result with
          | error error => simp only [found, read, resolved, accepted, reduceCtorEq] at loaded
          | ok _ =>
            simp only [found, read, resolved, accepted, Except.ok.injEq] at loaded
            subst loaded
            exact ⟨raw, parsed, rfl, read, resolved, accepted⟩
  · rintro ⟨raw, parsed, found, read, resolved, accepted⟩
    simp only [load, found, read, resolved, accepted]

theorem run_of_load_error {error : ListError} (failed : playbook.load name key = .error error) :
    playbook.run backend name key state = (.error error, state) := by
  rw [run, failed]

theorem run_error_of_loads (loads : playbook.Loads name key) {error : ListError} {final : σ}
    (failed : playbook.run backend name key state = (.error error, final)) :
    ∃ path answer, error = .failed key ⟨path, .backend answer⟩ := by
  obtain ⟨script, loaded⟩ := loads.exists_script
  obtain ⟨_, _, _, _, _, accepted⟩ := load_eq_ok_iff.mp loaded
  have regular : Regular [] (Execution.run backend playbook.settings script (.start state)) :=
    Execution.run_regular backend playbook.settings accepted rfl
  simp only [run, loaded] at failed
  split at failed
  · cases failed
  · next scriptError session ended =>
    rw [ended] at regular
    obtain ⟨answer, cause⟩ := regular.failure scriptError rfl
    refine ⟨scriptError.path, answer, ?_⟩
    rw [← cause]
    exact (Except.error.inj (Prod.ext_iff.mp failed).1).symm

section RunAll

variable {keys before after : List String} {results : List (String × List String)}
  {middle final : σ} {error : ListError}

theorem runAll_of_runsAll (runs : RunsAll playbook backend name keys state results final) :
    playbook.runAll backend name keys state = (.ok results, final) := by
  induction runs with
  | nil => rfl
  | cons first _ ih =>
    rw [runAll, first]
    dsimp only
    rw [ih]

theorem runAll_of_error (runs : RunsAll playbook backend name before state results middle)
    (failed : playbook.run backend name key middle = (.error error, final)) :
    playbook.runAll backend name (before ++ key :: after) state = (.error error, final) := by
  induction runs with
  | nil => rw [List.nil_append, runAll, failed]
  | cons first _ ih =>
    rw [List.cons_append, runAll, first]
    dsimp only
    rw [ih failed]

theorem runAll_cases (playbook : Playbook) (backend : Backend σ) (name : String)
    (keys : List String) (state : σ) :
    (∃ results final, RunsAll playbook backend name keys state results final) ∨
      ∃ before key after results middle error final, keys = before ++ key :: after ∧
        RunsAll playbook backend name before state results middle ∧
        playbook.run backend name key middle = (.error error, final) := by
  induction keys generalizing state with
  | nil => exact .inl ⟨[], state, .nil⟩
  | cons key rest ih =>
    rcases first : playbook.run backend name key state with ⟨error | texts, middle⟩
    · exact .inr ⟨[], key, rest, [], state, error, middle, rfl, .nil, first⟩
    · rcases ih middle with ⟨results, final, runs⟩ |
        ⟨before, failing, after, results, reached, error, final, rfl, runs, failed⟩
      · exact .inl ⟨(key, texts) :: results, final, .cons first runs⟩
      · exact .inr ⟨key :: before, failing, after, (key, texts) :: results, reached, error, final,
          rfl, .cons first runs, failed⟩

theorem failsInBackend_of_loads (loads : ∀ key ∈ keys, playbook.Loads name key)
    (failed : (playbook.runAll backend name keys state).1 = .error error) :
    FailsInBackend keys error := by
  rcases runAll_cases playbook backend name keys state with ⟨results, final, runs⟩ |
    ⟨before, key, after, results, middle, other, final, rfl, runs, ended⟩
  · rw [runAll_of_runsAll runs] at failed
    cases failed
  · rw [runAll_of_error runs ended] at failed
    obtain rfl := Except.error.inj failed
    have member : key ∈ before ++ key :: after := List.mem_append_right before List.mem_cons_self
    exact ⟨key, member, run_error_of_loads (loads key member) ended⟩

/-- The first list that does not load is not begun: what is before it is run as if it were all. -/
theorem runAll_of_load_error (loads : ∀ key ∈ before, playbook.Loads name key)
    (failed : playbook.load name key = .error error) :
    (playbook.runAll backend name (before ++ key :: after) state).2 =
        (playbook.runAll backend name before state).2 ∧
      ((∃ results, (playbook.runAll backend name before state).1 = .ok results) ∧
          (playbook.runAll backend name (before ++ key :: after) state).1 = .error error ∨
        ∃ earlier, (playbook.runAll backend name before state).1 = .error earlier ∧
          (playbook.runAll backend name (before ++ key :: after) state).1 = .error earlier ∧
          FailsInBackend before earlier) := by
  rcases runAll_cases playbook backend name before state with ⟨results, middle, runs⟩ |
    ⟨front, failing, back, results, middle, earlier, final, rfl, runs, ended⟩
  · rw [runAll_of_error runs (run_of_load_error failed), runAll_of_runsAll runs]
    exact ⟨rfl, .inl ⟨⟨results, rfl⟩, rfl⟩⟩
  · have stopped : playbook.runAll backend name (front ++ failing :: back) state =
        (.error earlier, final) := runAll_of_error runs ended
    have blamed := failsInBackend_of_loads loads (congrArg Prod.fst stopped)
    rw [List.append_assoc, List.cons_append, runAll_of_error runs ended, stopped]
    exact ⟨rfl, .inr ⟨earlier, rfl, rfl, blamed⟩⟩

end RunAll

theorem checkAll_eq_success_iff (playbook : Playbook) (name : String) (keys : List String) :
    CommandLine.checkAll playbook name keys = .success "" ↔ ∀ key ∈ keys, playbook.Loads name key := by
  induction keys with
  | nil => exact iff_of_true rfl nofun
  | cons key rest ih =>
    rw [CommandLine.checkAll, List.forall_mem_cons, ← ih]
    cases loaded : playbook.load name key with
    | error error =>
      refine iff_of_false (fun same => ?_) fun loads => ?_
      · have exits : (1 : Nat) = 0 := congrArg CommandLine.Result.exit same
        cases exits
      · obtain ⟨script, found⟩ := loads.1.exists_script
        rw [loaded] at found
        cases found
    | ok script =>
      have loads : playbook.Loads name key := by rw [Loads, loaded, Except.isOk, Except.toBool]
      exact (and_iff_right loads).symm

/-- The check before a run is sound. Lists that pass it fail in the backend only. The first list that
does not load makes no call, and neither do those behind it: unless the backend fails earlier, the run
ends with what loading says about that list, after the calls of the lists before it. A run that succeeds
gives the texts of every list in order, each run on what its predecessors left. -/
theorem runAll_of_checkAll (playbook : Playbook) (backend : Backend σ) (name : String)
    (keys : List String) (state : σ × List Call) :
    let outcome := playbook.runAll backend.logged name keys state
    (CommandLine.checkAll playbook name keys = .success "" ↔
        ∀ key ∈ keys, playbook.Loads name key) ∧
      ((∀ key ∈ keys, playbook.Loads name key) →
        ∀ error, outcome.1 = .error error → FailsInBackend keys error) ∧
      (∀ before key after error, keys = before ++ key :: after →
        (∀ earlier ∈ before, playbook.Loads name earlier) → playbook.load name key = .error error →
        let reached := playbook.runAll backend.logged name before state
        outcome.2 = reached.2 ∧
          ((∃ results, reached.1 = .ok results) ∧ outcome.1 = .error error ∨
            ∃ earlier, reached.1 = .error earlier ∧ outcome.1 = .error earlier ∧
              FailsInBackend before earlier)) ∧
      ∀ results, outcome.1 = .ok results → results.map Prod.fst = keys ∧
        RunsAll playbook backend.logged name keys state results outcome.2 := by
  intro outcome
  refine ⟨checkAll_eq_success_iff playbook name keys, ?_, ?_, ?_⟩
  · intro loads error failed
    exact failsInBackend_of_loads loads failed
  · intro before key after error split loads failed
    subst split
    exact runAll_of_load_error loads failed
  · intro results ended
    rcases runAll_cases playbook backend.logged name keys state with ⟨others, final, runs⟩ |
      ⟨before, key, after, others, middle, error, final, rfl, runs, failed⟩
    · have reached : outcome = (.ok others, final) := runAll_of_runsAll runs
      rw [reached] at ended ⊢
      obtain rfl := Except.ok.inj ended
      exact ⟨runs.keys, runs⟩
    · have stopped : outcome = (.error error, final) := runAll_of_error runs failed
      rw [stopped] at ended
      cases ended

def refreshing : Playbook := ⟨(∅ : Store).insert "Lists" "first" "[[\"refresh\"]]", {}⟩

/-- The list behind it is not there, so the one refresh is the only call. -/
theorem runAll_of_checkAll_refreshing :
    refreshing.Loads "Lists" "first" ∧
      refreshing.load "Lists" "second" = .error (.unknownList "Lists" "second") ∧
      (refreshing.runAll Recording.backend.logged "Lists" ["first", "second"] (.empty, [])).2 =
        (refreshing.runAll Recording.backend.logged "Lists" ["first"] (.empty, [])).2 := by
  have loads : refreshing.Loads "Lists" "first" := by decide +kernel
  have missing : refreshing.load "Lists" "second" = .error (.unknownList "Lists" "second") := by rfl
  refine ⟨loads, missing, ?_⟩
  obtain ⟨_, _, stops, _⟩ :=
    runAll_of_checkAll refreshing Recording.backend "Lists" ["first", "second"] (.empty, [])
  refine (stops ["first"] "second" [] _ rfl ?_ missing).1
  intro earlier member
  obtain rfl := List.mem_singleton.mp member
  exact loads

end Replay.Playbook
