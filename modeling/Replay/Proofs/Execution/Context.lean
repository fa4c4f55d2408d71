import Mathlib.Data.List.Infix
import Replay.Proofs.Execution.Deeds

namespace Replay

variable {σ : Type}

structure Job where
  settings : RunSettings
  script : List Action

namespace Execution

/-- Executes the jobs in order on one session, each whatever became of those before it. -/
def executeAll (backend : Backend σ) (jobs : List Job) (session : Session σ) : Session σ :=
  jobs.foldl (fun session job => (run backend job.settings job.script session).2) session

theorem executeAll_cons (backend : Backend σ) (job : Job) (jobs : List Job) (session : Session σ) :
    executeAll backend (job :: jobs) session =
      executeAll backend jobs (run backend job.settings job.script session).2 := rfl

theorem run_deeds (backend : Backend σ) (settings : RunSettings) (script : List Action)
    (session : Session σ) :
    ∃ deeds, (run backend settings script session).2.bindings = session.bindings ∧
      (run backend settings script session).2.texts =
        session.texts ++ textsOf settings.missingText deeds ∧
      backend.Conversation session.backend (deeds.flatMap Deed.exchanges)
        (run backend settings script session).2.backend ∧
      Concludes deeds (run backend settings script session).1 ∧
      ∀ deed ∈ deeds, deed.position.In script session.binding? := by
  obtain ⟨deeds, verdict, after, play, all⟩ :=
    run_plays backend settings.loopDelayMillis script session.bindings session.backend
  have ran : run backend settings script session =
      (verdict, ⟨after, session.texts ++ textsOf settings.missingText deeds, session.bindings⟩) :=
    play.runs_eq settings.missingText session.texts
  refine ⟨deeds, ?_, ?_, ?_, ?_, all⟩
  · rw [ran]
  · rw [ran]
  · rw [ran]
    exact play.talk
  · rw [ran]
    exact play.concluded

theorem executeAll_bindings (backend : Backend σ) (jobs : List Job) (session : Session σ) :
    (executeAll backend jobs session).bindings = session.bindings := by
  induction jobs generalizing session with
  | nil => rfl
  | cons job rest ih =>
    obtain ⟨_, kept, _⟩ := run_deeds backend job.settings job.script session
    rw [executeAll_cons, ih, kept]

theorem executeAll_texts (backend : Backend σ) (jobs : List Job) (session : Session σ) :
    session.texts <+: (executeAll backend jobs session).texts := by
  induction jobs generalizing session with
  | nil => exact List.prefix_refl session.texts
  | cons job rest ih =>
    obtain ⟨_, _, grown, _⟩ := run_deeds backend job.settings job.script session
    have first : session.texts <+: (run backend job.settings job.script session).2.texts := by
      rw [grown]
      exact List.prefix_append _ _
    exact first.trans (ih _)

/-- A run of the job stops at the path, on the answer of the backend. The deeds completed before have
added their texts, and the last, which fails, adds none. -/
structure StopsAt (backend : Backend σ) (job : Job) (before after : Session σ) (path : Path)
    (answer : BackendError) (completed : List Deed) (last : Deed) : Prop where
  succeeded : ∀ deed ∈ completed, deed.result = .ok ()
  refused : last.result = .error answer
  blamed : last.position.path = path
  placed : ∀ deed ∈ completed ++ [last], deed.position.In job.script before.binding?
  talk : backend.Conversation before.backend ((completed ++ [last]).flatMap Deed.exchanges) after.backend
  texts : after.texts = before.texts ++ textsOf job.settings.missingText completed
  silent : ∀ policy, last.text? policy = none

theorem run_stopsAt (backend : Backend σ) (job : Job) (before : Session σ) {path : Path}
    {answer : BackendError}
    (failed : (run backend job.settings job.script before).1 = .error ⟨path, .backend answer⟩) :
    ∃ completed last, StopsAt backend job before (run backend job.settings job.script before).2 path
      answer completed last := by
  obtain ⟨deeds, _, grown, talk, concluded, placed⟩ :=
    run_deeds backend job.settings job.script before
  rw [failed] at concluded
  cases concluded with
  | @refused completed last _ succeeded refused =>
    have does := last.does
    rw [refused] at does
    refine ⟨completed, last, succeeded, refused, rfl, placed, talk, ?_, does.silent⟩
    rw [grown, textsOf_append, textsOf_failed refused, List.append_nil]

/-- Whatever jobs are executed on a session: after each of them no token is bound, and the texts read
before are still there, at the front, and stay there. A job that the check rejects leaves the session as
it is. One that fails in the backend has added the texts of the actions completed until then, and the
failing action none. -/
theorem executeAll_invariant (backend : Backend σ) (state : σ) (earlier : List Job) (job : Job)
    (later : List Job) :
    let before := executeAll backend earlier (.start state)
    let outcome := run backend job.settings job.script before
    outcome.2.bindings = [] ∧ outcome.2.binding? = none ∧
    before.texts <+: outcome.2.texts ∧
    outcome.2.texts <+: (executeAll backend (earlier ++ job :: later) (.start state)).texts ∧
    (∀ error, checkLoops job.script = .error error → outcome = (.error error, before)) ∧
    (∀ path answer, outcome.1 = .error ⟨path, .backend answer⟩ →
      ∃ completed last, StopsAt backend job before outcome.2 path answer completed last) := by
  intro before outcome
  have outside : before.bindings = [] := executeAll_bindings backend earlier (.start state)
  have left : executeAll backend [job] before = outcome.2 := rfl
  have closed : outcome.2.bindings = [] :=
    (executeAll_bindings backend [job] before).trans outside
  refine ⟨closed, congrArg List.head? closed, executeAll_texts backend [job] before, ?_, ?_, ?_⟩
  · have whole : executeAll backend (earlier ++ job :: later) (.start state) =
        executeAll backend later outcome.2 := List.foldl_append
    rw [whole]
    exact executeAll_texts backend later outcome.2
  · intro error rejected
    change run backend job.settings job.script before = _
    rw [run, rejected]
  · intro path answer
    exact run_stopsAt backend job before

end Execution

end Replay
