import Replay.Proofs.Backend.Rehearsal
import Replay.Proofs.Number.Exact
import Replay.Proofs.Number.Numerals
import Replay.Proofs.Script.Language
import Replay.Proofs.Traversal

namespace Replay

open Numeral

mutual

def Action.sleeps : Action → List Nat
  | .wait nanos => [nanos]
  | .ifExists _ body => sleepsOf body
  | .forEachToken _ body => sleepsOf body
  | _ => []

def sleepsOf : List Action → List Nat
  | [] => []
  | action :: rest => action.sleeps ++ sleepsOf rest

end

mutual

theorem Script.SpellsAction.sleeps_le {action : Action} {value : Json.Value}
    (spelled : Script.SpellsAction action value) :
    ∀ nanos ∈ action.sleeps, nanos ≤ twoTo 64 * 1000000000 :=
  match spelled with
  | .wait span => by
    intro nanos member
    obtain rfl := List.mem_singleton.mp member
    cases span with
    | number seconds => exact Duration.ofSeconds_le seconds
    | text _ seconds => exact Duration.ofSeconds_le seconds
  | .ifExists inside => inside.sleeps_le
  | .forEachToken inside => inside.sleeps_le
  | .navigate | .click | .clear | .typeText | .typeLiteral | .refresh | .unlabelled | .labelled =>
    List.forall_mem_nil _

theorem Script.SpellsActions.sleeps_le {script : List Action} {items : List Json.Value}
    (spelled : Script.SpellsActions script items) :
    ∀ nanos ∈ sleepsOf script, nanos ≤ twoTo 64 * 1000000000 :=
  match spelled with
  | .nil => List.forall_mem_nil _
  | .cons first rest => List.forall_mem_append.mpr ⟨first.sleeps_le, rest.sleeps_le⟩

end

theorem Script.sleeps_le_of_ofText {text : String} {script : List Action}
    (read : ofText text = .ok script) : ∀ nanos ∈ sleepsOf script, nanos ≤ twoTo 64 * 1000000000 := by
  rw [ofText] at read
  split at read
  · obtain ⟨_, items, _, spelled⟩ := ofValue_root_eq_ok.mp read
    exact spelled.sleeps_le
  · cases read

mutual

theorem Action.sleeps_shape : (action : Action) → action.shape.sleeps = action.sleeps
  | .ifExists _ body => sleepsOf_shapes body
  | .forEachToken _ body => sleepsOf_shapes body
  | .navigate _ | .click _ | .clear _ | .typeText _ _ _ | .wait _ | .refresh | .readText _ _ => rfl

theorem sleepsOf_shapes : (script : List Action) → sleepsOf (shapes script) = sleepsOf script
  | [] => rfl
  | action :: rest => by
    rw [shapes, sleepsOf, sleepsOf, action.sleeps_shape, sleepsOf_shapes rest]

end

theorem sleepsOf_resolved {store : Store} {script resolved : List Action}
    (ran : resolveScript store script = .ok resolved) : sleepsOf resolved = sleepsOf script := by
  have visiting : Visits .plain (resolving store) (textsAt (placed script)) (Reworded .root 0 script)
      (resolveScript store script) := mapTextsFrom_visits .root 0 script
  rcases visiting () with ⟨_, _, rewritten, _, made, shape, _⟩ | ⟨error, _, _, failed⟩
  · rw [ran] at made
    obtain rfl : resolved = rewritten := Except.ok.inj (congrArg Prod.fst made)
    rw [← sleepsOf_shapes resolved, shape, sleepsOf_shapes]
  · rw [ran] at failed
    cases failed

def Visit.pause? (visit : Visit) : Option Nat :=
  match visit.action with
  | .wait nanos => some nanos
  | _ => none

def Call.pause? : Call → Option Nat
  | .pause nanos => some nanos
  | _ => none

theorem Visit.pauses_calls (present : Bool) (visit : Visit) :
    (visit.calls present).filterMap Call.pause? = visit.pause?.toList := by
  obtain ⟨action, token?⟩ := visit
  cases action with
  | typeText locator text mode =>
    change (((typedKeys? token? text mode).map _).toList).filterMap Call.pause? = []
    cases typedKeys? token? text mode <;> rfl
  | readText locator label => cases present <;> rfl
  | _ => rfl

theorem pauses_flatMap (present : Bool) (visits : List Visit) :
    (visits.flatMap (·.calls present)).filterMap Call.pause? = visits.filterMap Visit.pause? := by
  induction visits with
  | nil => rfl
  | cons visit rest ih =>
    rw [List.flatMap_cons, List.filterMap_append, ih, Visit.pauses_calls, List.filterMap_cons]
    cases visit.pause? <;> rfl

section Reached

variable {entered : Bool} {delay nanos : Nat}

mutual

/-- A pause that is reached is a wait of the action, or stands behind a turn. -/
theorem Action.mem_sleeps_of_reached (token? : Option String) (visit : Visit)
    (pauses : visit.pause? = some nanos) : (action : Action) →
    visit ∈ action.reached entered delay token? → nanos ∈ action.sleeps ∨ nanos = delay
  | .ifExists locator body => by
    intro reached
    rw [Action.reached, List.mem_cons] at reached
    rcases reached with rfl | inside
    · cases pauses
    · split at inside
      · exact mem_sleepsOf_of_reached token? visit pauses body inside
      · cases inside
  | .forEachToken source body => by
    intro reached
    rw [Action.reached, List.mem_flatMap] at reached
    obtain ⟨token, _, turn⟩ := reached
    rcases List.mem_append.mp turn with inside | behind
    · exact mem_sleepsOf_of_reached (some token) visit pauses body inside
    · obtain rfl := List.mem_singleton.mp behind
      exact .inr (Option.some.inj pauses).symm
  | .wait span => by
    intro reached
    obtain rfl := List.mem_singleton.mp reached
    obtain rfl : span = nanos := Option.some.inj pauses
    exact .inl (List.mem_singleton_self span)
  | .navigate _ | .click _ | .clear _ | .typeText _ _ _ | .refresh | .readText _ _ => by
    intro reached
    obtain rfl := List.mem_singleton.mp reached
    cases pauses

theorem mem_sleepsOf_of_reached (token? : Option String) (visit : Visit)
    (pauses : visit.pause? = some nanos) : (script : List Action) →
    visit ∈ reachedAll entered delay token? script → nanos ∈ sleepsOf script ∨ nanos = delay
  | [] => by
    intro reached
    rw [reachedAll] at reached
    cases reached
  | action :: rest => by
    intro reached
    rw [reachedAll, List.mem_append] at reached
    rw [sleepsOf, List.mem_append]
    rcases reached with here | later
    · exact (action.mem_sleeps_of_reached token? visit pauses here).imp_left .inl
    · exact (mem_sleepsOf_of_reached token? visit pauses rest later).imp_left .inr

end

end Reached

def pausesReached (present : Bool) (settings : RunSettings) (script : List Action) : List Nat :=
  match checkLoops script with
  | .error _ => []
  | .ok () => (reachedAll present (Duration.ofMillis settings.loopDelayMillis) none script).filterMap
      Visit.pause?

theorem mem_sleepsOf_of_pausesReached {present : Bool} {settings : RunSettings}
    {script : List Action} {nanos : Nat} (reached : nanos ∈ pausesReached present settings script) :
    nanos ∈ sleepsOf script ∨ nanos = Duration.ofMillis settings.loopDelayMillis := by
  rw [pausesReached] at reached
  split at reached
  · cases reached
  · obtain ⟨visit, member, pauses⟩ := List.mem_filterMap.mp reached
    exact mem_sleepsOf_of_reached none visit pauses script member

def Report.pauseMillis? (report : Report) : Option String :=
  if report.message = "DRY-RUN pause" then report.fields.lookup "ms" else none

namespace DryRun

def pauseMillis (run : DryRun) : List String := run.reports.filterMap Report.pauseMillis?

def reportedMillis (nanos : Nat) : String := (Duration.toMillis nanos % twoTo 64).repr

theorem pauseMillis_perform (run : DryRun) (call : Call) :
    (backend.perform run call).pauseMillis =
      run.pauseMillis ++ call.pause?.toList.map reportedMillis := by
  cases call <;> exact List.filterMap_append

theorem pauseMillis_of_conversation {run final : DryRun} {exchanges : List Exchange}
    (talk : backend.Conversation run exchanges final) :
    final.pauseMillis = run.pauseMillis ++
      ((exchanges.map Exchange.call).filterMap Call.pause?).map reportedMillis := by
  induction talk with
  | nil => exact (List.append_nil _).symm
  | @cons state final call rest talk ih =>
    rw [ih, pauseMillis_perform, List.append_assoc, ← List.map_append]
    cases call <;> rfl

theorem reportedMillis_eq_iff (nanos : Nat) :
    reportedMillis nanos = (Duration.toMillis nanos).repr ↔ nanos < twoTo 64 * 1000000 := by
  have fits : Duration.toMillis nanos < twoTo 64 ↔ nanos < twoTo 64 * 1000000 :=
    Nat.div_lt_iff_lt_mul (by decide)
  rw [← fits, reportedMillis]
  constructor
  · intro same
    have written := writesNat_repr (Duration.toMillis nanos % twoTo 64)
    rw [same] at written
    rw [(writesNat_repr (Duration.toMillis nanos)).unique written]
    exact Nat.mod_lt _ (twoTo_pos 64)
  · intro small
    rw [Nat.mod_eq_of_lt small]

theorem pauseMillis_run (settings : RunSettings) (script : List Action) (dry : DryRun) :
    (Execution.run backend settings script (.start dry)).2.backend.pauseMillis =
      dry.pauseMillis ++ (pausesReached dry.assumePresent settings script).map reportedMillis := by
  cases accepted : checkLoops script with
  | error error =>
    rw [Execution.run, pausesReached, accepted]
    exact (List.append_nil _).symm
  | ok =>
    obtain ⟨exchanges, texts, ending, talk, _, _, trace⟩ :=
      Execution.run_traced backend settings accepted (.start dry) rfl
    obtain ⟨_, made, _⟩ := trace.rehearses (answer_of_conversation talk)
    rw [pauseMillis_of_conversation talk, made, pauses_flatMap, pausesReached, accepted]
    rfl

/-- A dry run of a script, as it was read or with its references replaced, reports each of its pauses
once and in order: the whole milliseconds, less the multiples of `2 ^ 64` that they hold. So a report is
exact just if the pause takes less than `2 ^ 64` milliseconds. The pauses are sleeps of the script and
those behind the turns of its loops, and a sleep takes at most `2 ^ 64` seconds. -/
theorem pauses_reported_exactly_iff {text : String} {written script : List Action}
    (read : Script.ofText text = .ok written)
    (prepared : script = written ∨ ∃ store, resolveScript store written = .ok script)
    (settings : RunSettings) (dry : DryRun) :
    let pauses := pausesReached dry.assumePresent settings script
    let final := (Execution.run backend settings script (.start dry)).2.backend
    final.pauseMillis = dry.pauseMillis ++ pauses.map reportedMillis ∧
    (∀ nanos ∈ pauses,
      nanos ∈ sleepsOf written ∨ nanos = Duration.ofMillis settings.loopDelayMillis) ∧
    (∀ nanos ∈ sleepsOf written, nanos ≤ twoTo 64 * 1000000000) ∧
    ∀ nanos, reportedMillis nanos = (Duration.toMillis nanos).repr ↔ nanos < twoTo 64 * 1000000 := by
  intro pauses final
  have sleeps : sleepsOf script = sleepsOf written := by
    rcases prepared with rfl | ⟨store, resolved⟩
    · rfl
    · exact sleepsOf_resolved resolved
  refine ⟨pauseMillis_run settings script dry, ?_, Script.sleeps_le_of_ofText read, reportedMillis_eq_iff⟩
  intro nanos member
  rw [← sleeps]
  exact mem_sleepsOf_of_pausesReached member

def longSleeps : List Action :=
  [.wait 18446744073709548000000000, .forEachToken "a, b" [.wait 800000000]]

theorem pauses_reported_exactly_iff_longSleeps :
    Script.ofText "[[\"sleep\", 18446744073709548], [\"for\", \"a, b\", [[\"sleep\", \"0.8\"]]]]" =
        .ok longSleeps ∧
      (longSleeps = longSleeps ∨ ∃ store, resolveScript store longSleeps = .ok longSleeps) ∧
      (Execution.run backend {} longSleeps (.start (.start true))).2.backend.pauseMillis =
        ["18446744073709548000", "800", "1000", "800", "1000"] ∧
      reportedMillis 18446744073709548000000000 =
        (Duration.toMillis 18446744073709548000000000).repr := by
  have read : Script.ofText
      "[[\"sleep\", 18446744073709548], [\"for\", \"a, b\", [[\"sleep\", \"0.8\"]]]]" =
        .ok longSleeps := by decide +kernel
  obtain ⟨told, _, _, exact⟩ := pauses_reported_exactly_iff read (.inl rfl) {} (.start true)
  have spans : (pausesReached true {} longSleeps).map reportedMillis =
      ["18446744073709548000", "800", "1000", "800", "1000"] := by decide +kernel
  refine ⟨read, .inl rfl, told.trans spans, (exact _).mpr ?_⟩
  decide +kernel

/-- The next longer sleep that can be spelled is reported as less than half a second. -/
theorem long_sleep_reported_short :
    Script.ofText "[[\"sleep\", 18446744073709552]]" = .ok [.wait 18446744073709552000000000] ∧
      (Execution.run backend {} [.wait 18446744073709552000000000] (.start (.start true))).2.backend.reports =
        [⟨"DRY-RUN pause", [("ms", "384")]⟩] ∧
      (Duration.toMillis 18446744073709552000000000).repr = "18446744073709552000" := by
  refine ⟨?_, ?_, ?_⟩ <;> decide +kernel

end DryRun

end Replay
