import Replay.Proofs.Number.Exact
import Replay.Proofs.Script.Language

namespace Replay.Script

open Json (Value)

mutual

theorem encodeAction_spells {path : Path} (action : Action)
    (whole : ∀ p ∈ action.placed path, WaitsWhole p) : SpellsAction action (encodeAction action) := by
  match action with
  | .navigate _ => exact .navigate
  | .click _ => exact .click
  | .clear _ => exact .clear
  | .typeText _ _ _ => exact .typeText
  | .wait nanos =>
    obtain ⟨seconds, small, rfl⟩ := whole _ List.mem_cons_self
    have quotient : seconds * 1000000000 / 1000000000 = seconds :=
      Nat.mul_div_cancel _ (by decide)
    rw [encodeAction, quotient]
    have below : seconds < twoTo 64 := Nat.lt_of_le_of_lt small (by decide)
    exact .wait (.number (Duration.ofSeconds_exact (Binary64.ofInt_exact small) below))
  | .refresh => exact .refresh
  | .readText _ none => exact .unlabelled
  | .readText _ (some _) => exact .labelled
  | .ifExists _ body =>
    exact .ifExists (encodeActions_spells body (List.forall_mem_cons.mp whole).2)
  | .forEachToken _ body =>
    exact .forEachToken (encodeActions_spells body (List.forall_mem_cons.mp whole).2)

theorem encodeActions_spells {parent : Path} {index : Nat} (script : List Action)
    (whole : ∀ p ∈ placedFrom parent index script, WaitsWhole p) :
    SpellsActions script (encodeActions script) := by
  match script with
  | [] => exact .nil
  | action :: rest =>
    obtain ⟨first, others⟩ := List.forall_mem_append.mp whole
    exact .cons (encodeAction_spells action first) (encodeActions_spells rest others)

end

/-- A list of leaves nests once, and each body adds two levels: its own list and that of the command. -/
def nestingBelow (depth : Nat) : Nat := 1 + 2 * (33 - depth)

theorem nestingBelow_child {path : Path} (index : Nat) (shallow : path.depth ≤ 32) :
    2 + nestingBelow (path.child index).depth = nestingBelow path.depth := by
  rw [nestingBelow, nestingBelow, Path.depth_child]
  omega

mutual

theorem encodeAction_nesting {path : Path} (action : Action)
    (fits : ∀ p ∈ action.placed path, Fits p) :
    (encodeAction action).nesting ≤ nestingBelow path.depth := by
  have leaves : 1 ≤ nestingBelow path.depth := Nat.le_add_right _ _
  match action with
  | .navigate _ | .click _ | .clear _ | .typeText _ _ _ | .wait _ | .refresh | .readText _ none
  | .readText _ (some _) =>
    exact leaves
  | .ifExists _ body | .forEachToken _ body =>
    obtain ⟨shallow, below⟩ := List.forall_mem_cons.mp fits
    have inner := encodeActions_nesting body below
    have step := nestingBelow_child 0 shallow
    simp only [encodeAction, Value.nesting, Json.itemsNesting]
    omega

theorem encodeActions_nesting {parent : Path} {index : Nat} (script : List Action)
    (fits : ∀ p ∈ placedFrom parent index script, Fits p) :
    Json.itemsNesting (encodeActions script) ≤ nestingBelow (parent.child index).depth := by
  match script with
  | [] => exact Nat.zero_le _
  | action :: rest =>
    obtain ⟨first, others⟩ := List.forall_mem_append.mp fits
    have restBound := encodeActions_nesting rest others
    rw [Path.depth_child] at restBound ⊢
    have firstBound := encodeAction_nesting action first
    rw [Path.depth_child] at firstBound
    exact Nat.max_le.mpr ⟨firstBound, restBound⟩

end

theorem encode_nesting {script : List Action} (fits : ∀ p ∈ placed script, Fits p) :
    (encode script).nesting ≤ 66 := by
  have below := encodeActions_nesting script fits
  exact Nat.add_le_add_left below 1

theorem list_outline {room : Nat} {items : List Value} (open_ : 1 < room)
    (read : Json.itemValues (room - 1) (Json.itemOutlines items) = .ok items) :
    (Value.list items).outline.value room = .ok (.list items) := by
  rw [Value.outline, Json.Outline.value, if_neg (Nat.not_le_of_lt open_), read]
  rfl

theorem withBody_outline {room : Nat} {command text : String} {items : List Value}
    (read : (Value.list items).outline.value room = .ok (.list items)) :
    Json.itemValues room (Json.itemOutlines [.text command, .text text, .list items]) =
      .ok [.text command, .text text, .list items] := by
  simp only [Json.itemOutlines, Json.itemValues, read]
  rfl

mutual

theorem encodeAction_outline {room : Nat} (action : Action)
    (fits : (encodeAction action).nesting < room) :
    (encodeAction action).outline.value room = .ok (encodeAction action) := by
  match action with
  | .navigate _ | .click _ | .clear _ | .typeText _ _ _ | .wait _ | .refresh | .readText _ none
  | .readText _ (some _) =>
    exact list_outline fits rfl
  | .ifExists _ body | .forEachToken _ body =>
    simp only [encodeAction, Value.nesting, Json.itemsNesting] at fits
    have inner : Json.itemsNesting (encodeActions body) < room - 1 - 1 := by omega
    have read := encodeActions_outline body inner
    exact list_outline (by omega) (withBody_outline (list_outline (by omega) read))

theorem encodeActions_outline {room : Nat} (script : List Action)
    (fits : Json.itemsNesting (encodeActions script) < room) :
    Json.itemValues room (Json.itemOutlines (encodeActions script)) = .ok (encodeActions script) := by
  match script with
  | [] => rfl
  | action :: rest =>
    obtain ⟨first, others⟩ := Nat.max_lt.mp fits
    rw [encodeActions, Json.itemOutlines, Json.itemValues, encodeAction_outline action first,
      encodeActions_outline rest others]
    rfl

end

theorem encode_outline {script : List Action} (fits : ∀ p ∈ placed script, Fits p) :
    (encode script).outline.value Json.nestingRoom = .ok (encode script) := by
  have nesting : 1 + Json.itemsNesting (encodeActions script) ≤ 66 := encode_nesting fits
  have inner : Json.itemsNesting (encodeActions script) < Json.nestingRoom - 1 := by
    rw [Json.nestingRoom]
    omega
  exact list_outline (by decide) (encodeActions_outline script inner)

/-- A script whose actions fit and whose waits are whole seconds is read back from its encoding, which
nests less than the reader of JSON allows. A value is read as a script exactly if the script fits and the
value spells it. -/
theorem reads_exactly_spellings :
    (∀ script, (∀ p ∈ placed script, Fits p ∧ WaitsWhole p) →
      ofValue .root (encode script) = .ok script ∧
      (encode script).nesting ≤ 66 ∧ 66 < Json.nestingRoom ∧
      (encode script).outline.value Json.nestingRoom = .ok (encode script)) ∧
    ∀ value script, ofValue .root value = .ok script ↔
      (∀ p ∈ placed script, Fits p) ∧
        ∃ items, value = .list items ∧ SpellsActions script items := by
  refine ⟨?_, fun value script => ofValue_root_eq_ok⟩
  intro script allowed
  have fits : ∀ p ∈ placed script, Fits p := fun p member => (allowed p member).1
  have whole : ∀ p ∈ placed script, WaitsWhole p := fun p member => (allowed p member).2
  have spelled := encodeActions_spells script whole
  exact ⟨ofValue_complete spelled (Nat.zero_le _) fits, encode_nesting fits, by decide,
    encode_outline fits⟩

theorem reads_nested_script :
    let script : List Action :=
      [.ifExists "#a" [.forEachToken "keys" [.typeText "#b" "" .loop, .wait 2000000000]]]
    ofValue .root (encode script) = .ok script ∧
      ofValue .root (.list [.list [.text "send_keys", .text "#a", .text "x"]]) =
        .ok [.typeText "#a" "x" .literal] := by
  intro script
  have shallow : 1 ≤ 32 := by decide
  have nested : 2 ≤ 32 := by decide
  have allowed : ∀ p ∈ placed script, Fits p ∧ WaitsWhole p := by
    simp only [script, placed, placedFrom, Action.placed, List.nil_append, List.append_nil,
      List.cons_append, List.forall_mem_cons]
    refine ⟨⟨shallow, trivial⟩, ⟨nested, trivial⟩, ⟨rfl, trivial⟩, ⟨trivial, ?_⟩, ?_⟩
    · exact ⟨2, by decide, rfl⟩
    · exact List.forall_mem_nil _
  have fits : ∀ p ∈ placed [Action.typeText "#a" "x" .literal], Fits p := by
    simp [placed, placedFrom, Action.placed, Fits]
  exact ⟨(reads_exactly_spellings.1 script allowed).1,
    (reads_exactly_spellings.2 _ _).mpr ⟨fits, _, rfl, .cons .typeLiteral .nil⟩⟩

end Replay.Script
