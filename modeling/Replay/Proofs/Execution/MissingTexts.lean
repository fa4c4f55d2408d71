import Replay.Proofs.Execution.Deeds
import Replay.Proofs.Execution.Labels

namespace Replay

variable {σ : Type}

namespace Deed

def Reads (deed : Deed) (text : String) : Prop :=
  ∃ locator label element others, deed.position.action = .readText locator label ∧
    deed.exchanges = [⟨.find (Template.render locator deed.position.token?),
      .found (element :: others)⟩, ⟨.textOf element.id, .text text⟩]

/-- The deed finds nothing to read, and the text says so of its rendered label, or without one of the
name quoted in its rendered locator. -/
def Misses (deed : Deed) (text : String) : Prop :=
  ∃ locator label name, deed.position.action = .readText locator label ∧
    deed.exchanges = [⟨.find (Template.render locator deed.position.token?), .found []⟩] ∧
    (label.map (Template.render · deed.position.token?) = some name ∨
      label = none ∧ FirstQuoted (Template.render locator deed.position.token?) name) ∧
    s!"{name} does not exist." = text

theorem text?_skip_iff (deed : Deed) (text : String) :
    deed.text? .skip = some text ↔ deed.Reads text := by
  obtain ⟨⟨path, action, token?⟩, exchanges, text?, result, does⟩ := deed
  cases does with
  | acted opens other fine => simp [Reads, other]
  | refused error opens => simp [Reads]
  | waited nanos => simp [Reads]
  | turned source body nanos => simp [Reads]
  | missed locator label => simp [Reads, missingText?]
  | read locator label element others content => simp [Reads]
  | unreadable locator label element others error => simp [Reads]

theorem text?_diagnostic_iff (deed : Deed) (text : String) :
    deed.text? .diagnostic = some text ↔ deed.Reads text ∨ deed.Misses text := by
  obtain ⟨⟨path, action, token?⟩, exchanges, text?, result, does⟩ := deed
  cases does with
  | acted opens other fine => simp [Reads, Misses, other]
  | refused error opens => simp [Reads, Misses]
  | waited nanos => simp [Reads, Misses]
  | turned source body nanos => simp [Reads, Misses]
  | missed locator label => simp [Reads, Misses, missingText?, quotedLabel_eq_some_iff]
  | read locator label element others content => simp [Reads, Misses]
  | unreadable locator label element others error => simp [Reads, Misses]

end Deed

theorem textsOf_sublist (deeds : List Deed) :
    (textsOf .skip deeds).Sublist (textsOf .diagnostic deeds) := by
  induction deeds with
  | nil => exact .slnil
  | cons deed rest ih =>
    rw [textsOf_cons, textsOf_cons]
    refine List.Sublist.append ?_ ih
    cases skipped : deed.text? .skip with
    | none => exact List.nil_sublist _
    | some text =>
      have reads := (deed.text?_skip_iff text).mp skipped
      rw [(deed.text?_diagnostic_iff text).mpr (.inl reads)]

namespace Execution

/-- The policy for missing texts changes the texts of a run and nothing else. Under both policies the
same calls are made, with the same verdict and the same last state. What was read is kept in order under
both. Under the other policy there are notes besides, each for a `text` action that finds nothing and has
a label, its own or else a name quoted in its locator. -/
theorem missingText_only_texts (backend : Backend σ) (delayMillis : Nat) (script : List Action)
    (before : Session (σ × List Call)) :
    let skipping := run backend.logged ⟨delayMillis, .skip⟩ script before
    let noting := run backend.logged ⟨delayMillis, .diagnostic⟩ script before
    skipping.1 = noting.1 ∧ skipping.2.backend = noting.2.backend ∧
    skipping.2.bindings = noting.2.bindings ∧
    skipping.2.texts.Sublist noting.2.texts ∧
    ∃ deeds : List Deed,
      noting.2.backend.2 = before.backend.2 ++ (deeds.flatMap Deed.exchanges).map Exchange.call ∧
      backend.Conversation before.backend.1 (deeds.flatMap Deed.exchanges) noting.2.backend.1 ∧
      (∀ deed ∈ deeds, deed.position.In script before.binding?) ∧
      skipping.2.texts = before.texts ++ textsOf .skip deeds ∧
      noting.2.texts = before.texts ++ textsOf .diagnostic deeds ∧
      ∀ deed ∈ deeds, ∀ text,
        (deed.text? .skip = some text ↔ deed.Reads text) ∧
        (deed.text? .diagnostic = some text ↔ deed.Reads text ∨ deed.Misses text) := by
  intro skipping noting
  obtain ⟨deeds, verdict, after, play, placed⟩ :=
    run_plays backend.logged delayMillis script before.bindings before.backend
  have skipped : skipping = (verdict, ⟨after, before.texts ++ textsOf .skip deeds, before.bindings⟩) :=
    play.runs_eq .skip before.texts
  have noted : noting =
      (verdict, ⟨after, before.texts ++ textsOf .diagnostic deeds, before.bindings⟩) :=
    play.runs_eq .diagnostic before.texts
  obtain ⟨calls, talk⟩ := play.talk.of_logged
  rw [skipped, noted]
  refine ⟨rfl, rfl, rfl, ?_, deeds, calls, talk, placed, rfl, rfl, ?_⟩
  · exact (List.Sublist.refl before.texts).append (textsOf_sublist deeds)
  · intro deed _ text
    exact ⟨deed.text?_skip_iff text, deed.text?_diagnostic_iff text⟩

end Execution

end Replay
