import Replay.Proofs.Script.Language

namespace Replay.Script

open Json (Value)

theorem bind_eq_error {ε α β : Type} {first : Except ε α} {next : α → Except ε β} {error : ε} :
    (first >>= next) = .error error ↔
      first = .error error ∨ ∃ value, first = .ok value ∧ next value = .error error := by
  cases first <;> simp [bind, Except.bind]

def Blames {α : Type} (path : Path) (reading : Except ScriptError α) : Prop :=
  ∀ error, reading = .error error →
    error.path = path ∧ ∃ malformation, error.cause = .malformed malformation

namespace Blames

variable {α β : Type} {path : Path} {error : ScriptError}

theorem ok (value : α) : Blames path (.ok value) := nofun

theorem malformed (malformation : Malformation) :
    Blames path (malformed path malformation : Except ScriptError α) := by
  intro error failed
  obtain rfl := Except.error.inj failed
  exact ⟨rfl, malformation, rfl⟩

theorem onward (blames : Blames path (.error error : Except ScriptError α)) :
    Blames path (.error error : Except ScriptError β) := by
  intro other same
  obtain rfl := Except.error.inj same
  exact blames error rfl

theorem bind {reading : Except ScriptError α} {next : α → Except ScriptError β}
    (first : Blames path reading) (rest : ∀ value, Blames path (next value)) :
    Blames path (reading >>= next) := by
  cases reading with
  | error error => exact first.onward
  | ok value => exact rest value

end Blames

section Arguments

variable {path : Path} {command : String}

theorem arity_blames (args : List Value) (least most : Nat) :
    Blames path (arity path command args least most) := by
  rw [arity]
  split
  · exact .ok ()
  · exact .malformed _

theorem textArg_blames (index : Nat) (value : Value) :
    Blames path (textArg path command index value) := by
  cases value with
  | text text => exact .ok text
  | _ => exact .malformed _

theorem readDuration_blames (value : Value) : Blames path (readDuration path value) := by
  rw [readDuration]
  split
  · exact .malformed _
  · split
    · exact .ok _
    · exact .malformed _

theorem readMode_blames (value : Value) : Blames path (readMode path value) := by
  have named : Blames path (textArg path "send_keys" 2 value) := textArg_blames 2 value
  rw [readMode]
  split
  · next failed =>
    rw [failed] at named
    exact named.onward
  · exact .ok _
  · exact .ok _
  · exact .ok _
  · exact .malformed _

theorem typeText_blames (locator text : Value) (mode? : Option Value) :
    Blames path (typeText path locator text mode?) := by
  have closing (locator text : String) (mode : TypingMode) :
      Blames path (if mode = .loop ∧ text ≠ "" then malformed path .loopModeWithText
        else pure (Action.typeText locator text mode)) := by
    split
    · exact .malformed _
    · exact .ok _
  refine .bind (textArg_blames 0 locator) fun l => .bind (textArg_blames 1 text) fun t => ?_
  cases mode? with
  | none => exact closing l t .literal
  | some mode => exact .bind (readMode_blames mode) (closing l t)

theorem readTextAction_blames (locator : Value) (label? : Option Value) :
    Blames path (readTextAction path locator label?) := by
  have closing (label : Option String) :
      Blames path (do return Action.readText (← textArg path "text" 0 locator) label) :=
    .bind (textArg_blames 0 locator) fun _ => .ok _
  cases label? with
  | none => exact closing none
  | some label =>
    have labelled : Blames path (some <$> textArg path "text" 1 label) :=
      .bind (textArg_blames 1 label) fun _ => .ok _
    exact labelled.bind closing

theorem simpleAction?_blames {args : List Value} {reading : Except ScriptError Action}
    (known : simpleAction? path command args = some reading) : Blames path reading := by
  unfold simpleAction? at known
  split at known
  · obtain rfl := Option.some.inj known
    exact .bind (arity_blames args 1 1) fun _ => .bind (textArg_blames 0 _) fun _ => .ok _
  · obtain rfl := Option.some.inj known
    exact .bind (arity_blames args 1 1) fun _ => .bind (textArg_blames 0 _) fun _ => .ok _
  · obtain rfl := Option.some.inj known
    exact .bind (arity_blames args 1 1) fun _ => .bind (textArg_blames 0 _) fun _ => .ok _
  · obtain rfl := Option.some.inj known
    exact .bind (arity_blames args 2 3) fun _ => typeText_blames _ _ _
  · obtain rfl := Option.some.inj known
    exact .bind (arity_blames args 1 1) fun _ => .bind (readDuration_blames _) fun _ => .ok _
  · obtain rfl := Option.some.inj known
    exact .bind (arity_blames args 0 0) fun _ => .ok _
  · obtain rfl := Option.some.inj known
    exact .bind (arity_blames args 1 2) fun _ => readTextAction_blames _ _
  · cases known

theorem simpleAction?_getD_blames (args : List Value) (malformation : Malformation) :
    Blames path ((simpleAction? path command args).getD (malformed path malformation)) := by
  cases known : simpleAction? path command args with
  | none => exact .malformed _
  | some reading => exact simpleAction?_blames known

end Arguments

def HoldsList (command : String) : Prop := command = "exist" ∨ command = "for"

instance (command : String) : Decidable (HoldsList command) :=
  inferInstanceAs (Decidable (_ ∨ _))

section Elements

variable {path : Path} {error : ScriptError}

theorem withBody_eq_error {command : String} {first body : Value}
    {build : String → List Action → Action}
    (failed : (do let text ← textArg path command 0 first; return build text (← ofValue path body) :
      Except ScriptError Action) = .error error) :
    (error.path = path ∧ ∃ malformation, error.cause = .malformed malformation) ∨
      ∃ argument inner, first = .text argument ∧ body = .list inner ∧ path.depth ≤ maxNesting ∧
        ofItems path 0 inner = .error error := by
  rcases bind_eq_error.mp failed with unnamed | ⟨argument, named, failed⟩
  · exact .inl (textArg_blames 0 first error unnamed)
  · obtain inside | ⟨_, _, done⟩ := bind_eq_error.mp failed
    · unfold ofValue at inside
      split at inside
      · exact .inl (Blames.malformed _ error inside)
      · next shallow =>
        split at inside
        · exact .inr ⟨argument, _, textArg_eq_ok.mp named, rfl, Nat.le_of_not_lt shallow, inside⟩
        · exact .inl (Blames.malformed _ error inside)
    · cases done

/-- The reading fails at the element itself, or below it in the list that it holds. -/
theorem actionOfValue_eq_error {item : Value} (failed : actionOfValue path item = .error error) :
    (error.path = path ∧ ∃ malformation, error.cause = .malformed malformation) ∨
      ∃ command argument inner, item = .list [.text command, .text argument, .list inner] ∧
        HoldsList command ∧ path.depth ≤ maxNesting ∧ ofItems path 0 inner = .error error := by
  match item, failed with
  | .list [], failed => exact .inl (Blames.malformed _ error failed)
  | .list (.text command :: args), failed =>
    match args, failed with
    | [first, body], failed =>
      simp only [actionOfValue, actionOfParts] at failed
      split at failed
      · obtain blamed | ⟨argument, inner, rfl, rfl, shallow, below⟩ := withBody_eq_error failed
        · exact .inl blamed
        · exact .inr ⟨_, argument, inner, rfl, .inl rfl, shallow, below⟩
      · obtain blamed | ⟨argument, inner, rfl, rfl, shallow, below⟩ := withBody_eq_error failed
        · exact .inl blamed
        · exact .inr ⟨_, argument, inner, rfl, .inr rfl, shallow, below⟩
      · exact .inl (simpleAction?_getD_blames _ _ error failed)
    | [], failed | [_], failed | _ :: _ :: _ :: _, failed =>
      refine .inl ?_
      simp only [actionOfValue, actionOfParts] at failed
      split at failed
      · exact Blames.malformed _ error failed
      · exact simpleAction?_getD_blames _ _ error failed
  | .list (.null :: _), failed | .list (.bool _ :: _), failed | .list (.number _ :: _), failed
  | .list (.list _ :: _), failed | .list (.object _ :: _), failed
  | .null, failed | .bool _, failed | .number _, failed | .text _, failed | .object _, failed =>
    exact .inl (Blames.malformed _ error failed)

theorem actionOfValue_of_inner {command argument : String} {inner : List Value}
    (holds : HoldsList command) (shallow : path.depth ≤ maxNesting)
    (failed : ofItems path 0 inner = .error error) :
    actionOfValue path (.list [.text command, .text argument, .list inner]) = .error error := by
  have body : ofValue path (.list inner) = .error error := by
    rw [ofValue, if_neg (Nat.not_lt_of_le shallow)]
    exact failed
  rcases holds with rfl | rfl
  · simp [actionOfValue, actionOfParts, textArg, body, bind, Except.bind]
  · simp [actionOfValue, actionOfParts, textArg, body, bind, Except.bind]

theorem ofItems_eq_error_iff {parent : Path} {index : Nat} {items : List Value} :
    ofItems parent index items = .error error ↔ ∃ (offset : Nat) (item : Value),
      items[offset]? = some item ∧ (∃ actions, ofItems parent index (items.take offset) = .ok actions) ∧
        actionOfValue (parent.child (index + offset)) item = .error error := by
  induction items generalizing index with
  | nil => simp [ofItems]
  | cons first rest ih =>
    rw [ofItems, bind_eq_error]
    constructor
    · rintro (failed | ⟨action, read, failed⟩)
      · exact ⟨0, first, rfl, ⟨[], rfl⟩, failed⟩
      · obtain failed | ⟨_, _, done⟩ := bind_eq_error.mp failed
        · obtain ⟨offset, item, here, ⟨actions, before⟩, failed⟩ := ih.mp failed
          refine ⟨offset + 1, item, here, ⟨action :: actions, ?_⟩, ?_⟩
          · rw [List.take_succ_cons, ofItems, read, before]
            rfl
          · rwa [← Nat.add_assoc, Nat.add_right_comm]
        · cases done
    · rintro ⟨_ | offset, item, here, ⟨actions, before⟩, failed⟩
      · obtain rfl : first = item := Option.some.inj here
        exact .inl failed
      · rw [List.take_succ_cons, ofItems, bind_eq_ok] at before
        obtain ⟨action, read, before⟩ := before
        obtain ⟨others, before, -⟩ := bind_eq_ok.mp before
        rw [← Nat.add_assoc, Nat.add_right_comm] at failed
        refine .inr ⟨action, read, bind_eq_error.mpr (.inl ?_)⟩
        exact ih.mpr ⟨offset, item, here, ⟨others, before⟩, failed⟩

end Elements

def listIn? : Value → Option (List Value)
  | .list [.text command, _, .list items] => if HoldsList command then some items else none
  | _ => none

/-- The list to which indices lead, each to an element and on to the list that it holds. -/
def listAt? : List Value → List Nat → Option (List Value)
  | items, [] => some items
  | items, index :: rest => (items[index]?.bind listIn?).bind (listAt? · rest)

/-- The lists are the same up to the element to which the indices lead. What stands behind it may differ,
at every level. -/
inductive AgreeUpTo : List Nat → List Value → List Value → Prop
  | here {index : Nat} {items others : List Value} :
      items.take (index + 1) = others.take (index + 1) → AgreeUpTo [index] items others
  | inside {index : Nat} {indices : List Nat} {items others inner inner' : List Value}
      {command argument : Value} : items.take index = others.take index →
      items[index]? = some (.list [command, argument, .list inner]) →
      others[index]? = some (.list [command, argument, .list inner']) →
      AgreeUpTo indices inner inner' → AgreeUpTo (index :: indices) items others

/-- The list at the path fails with the error, at the element with the index and not before. -/
structure FailsAt (error : ScriptError) (path : Path) (items : List Value) (index : Nat) : Prop where
  shallow : path.depth ≤ maxNesting
  before : ∃ actions, ofItems path 0 (items.take index) = .ok actions
  element : ∃ item, items[index]? = some item ∧ actionOfValue (path.child index) item = .error error

/-- The list at the path fails at each level along the indices, the last of which leads to the element
that the error names. -/
inductive FailsAlong (error : ScriptError) : Path → List Value → List Nat → Prop
  | here {path : Path} {items : List Value} {index : Nat} : FailsAt error path items index →
      error.path = path.child index → (∃ malformation, error.cause = .malformed malformation) →
      FailsAlong error path items [index]
  | inside {path : Path} {items inner : List Value} {index : Nat} {indices : List Nat}
      {command argument : String} : FailsAt error path items index →
      items[index]? = some (.list [.text command, .text argument, .list inner]) → HoldsList command →
      FailsAlong error (path.child index) inner indices → FailsAlong error path items (index :: indices)

theorem ofValue_list {path : Path} (shallow : path.depth ≤ maxNesting) (items : List Value) :
    ofValue path (.list items) = ofItems path 0 items := by
  rw [ofValue, if_neg (Nat.not_lt_of_le shallow)]

namespace FailsAt

variable {error : ScriptError} {path : Path} {items others : List Value} {index : Nat}

theorem fails (failsAt : FailsAt error path items index) : ofItems path 0 items = .error error := by
  obtain ⟨item, here, failed⟩ := failsAt.element
  refine ofItems_eq_error_iff.mpr ⟨index, item, here, failsAt.before, ?_⟩
  rwa [Nat.zero_add]

theorem congr (failsAt : FailsAt error path items index)
    (same : items.take (index + 1) = others.take (index + 1)) : FailsAt error path others index := by
  have before : items.take index = others.take index := by
    have shorter := congrArg (List.take index) same
    rwa [List.take_take, List.take_take, Nat.min_eq_left (Nat.le_succ index)] at shorter
  have here : items[index]? = others[index]? := by
    have element := congrArg (·[index]?) same
    simpa [List.getElem?_take] using element
  exact ⟨failsAt.shallow, before ▸ failsAt.before, here ▸ failsAt.element⟩

theorem locality (failsAt : FailsAt error path items index) :
    index < items.length ∧ (∃ actions, ofValue path (.list (items.take index)) = .ok actions) ∧
      ∀ later, ofValue path (.list (items.take (index + 1) ++ later)) = .error error := by
  obtain ⟨item, placed, _⟩ := failsAt.element
  obtain ⟨within, _⟩ := List.getElem?_eq_some_iff.mp placed
  have length : (items.take (index + 1)).length = index + 1 := List.length_take_of_le within
  refine ⟨within, ?_, fun later => ?_⟩
  · rw [ofValue_list failsAt.shallow]
    exact failsAt.before
  · have same : items.take (index + 1) = (items.take (index + 1) ++ later).take (index + 1) :=
      (List.take_left' length).symm
    rw [ofValue_list failsAt.shallow]
    exact (failsAt.congr same).fails

end FailsAt

namespace FailsAlong

variable {error : ScriptError} {path : Path} {items others : List Value} {indices : List Nat}

theorem malformed (along : FailsAlong error path items indices) :
    ∃ malformation, error.cause = .malformed malformation := by
  induction along with
  | here _ _ malformed => exact malformed
  | inside _ _ _ _ ih => exact ih

theorem path_eq (along : FailsAlong error path items indices) :
    error.path = ⟨path.indices ++ indices⟩ := by
  induction along with
  | here _ named _ => exact named
  | inside _ _ _ _ ih =>
    rw [ih, Path.child, List.append_assoc, List.singleton_append]

theorem shallow (along : FailsAlong error path items indices) : path.depth ≤ maxNesting := by
  cases along with
  | here failsAt _ _ => exact failsAt.shallow
  | inside failsAt _ _ _ => exact failsAt.shallow

theorem ne_nil (along : FailsAlong error path items indices) : indices ≠ [] := by
  cases along <;> exact List.cons_ne_nil _ _

theorem levels (along : FailsAlong error path items indices) (outer : List Nat) (index : Nat)
    (inner : List Nat) (split : indices = outer ++ index :: inner) :
    ∃ list, listAt? items outer = some list ∧ FailsAt error ⟨path.indices ++ outer⟩ list index := by
  induction along generalizing outer with
  | @here path items first failsAt _ _ =>
    obtain ⟨rfl, rfl, rfl⟩ : outer = [] ∧ first = index ∧ inner = [] := by
      cases outer <;> simp_all
    exact ⟨items, rfl, by rwa [List.append_nil]⟩
  | @inside path items held first indices command argument failsAt placed holds _ ih =>
    cases outer with
    | nil =>
      obtain ⟨rfl, _⟩ := List.cons.inj split
      refine ⟨items, rfl, ?_⟩
      rwa [List.append_nil]
    | cons next outer =>
      obtain ⟨rfl, rest⟩ := List.cons.inj split
      obtain ⟨list, found, level⟩ := ih outer rest
      refine ⟨list, ?_, ?_⟩
      · rw [listAt?, placed, Option.bind_some, listIn?, if_pos holds]
        exact found
      · rwa [Path.child, List.append_assoc] at level

theorem congr (along : FailsAlong error path items indices)
    (agree : AgreeUpTo indices items others) : ofItems path 0 others = .error error := by
  induction along generalizing others with
  | here failsAt _ _ =>
    cases agree with
    | here same => exact (failsAt.congr same).fails
    | inside _ _ _ deeper => cases deeper
  | @inside path items held index indices command argument failsAt placed holds along ih =>
    cases agree with
    | here _ => cases along
    | @inside _ _ _ _ inner inner' _ _ same here there deeper =>
      obtain ⟨rfl, rfl, rfl⟩ : _ ∧ _ ∧ _ := by simpa using placed.symm.trans here
      refine ofItems_eq_error_iff.mpr ⟨index, _, there, same ▸ failsAt.before, ?_⟩
      rw [Nat.zero_add]
      exact actionOfValue_of_inner holds along.shallow (ih deeper)

end FailsAlong

theorem exists_failsAlong {error : ScriptError} {path : Path} (items : List Value)
    (shallow : path.depth ≤ maxNesting) (failed : ofItems path 0 items = .error error) :
    ∃ indices, FailsAlong error path items indices := by
  obtain ⟨index, item, here, before, failed⟩ := ofItems_eq_error_iff.mp failed
  rw [Nat.zero_add] at failed
  have failsAt : FailsAt error path items index := ⟨shallow, before, item, here, failed⟩
  obtain ⟨named, malformed⟩ | ⟨command, argument, inner, rfl, holds, deep, below⟩ :=
    actionOfValue_eq_error failed
  · exact ⟨[index], .here failsAt named malformed⟩
  · obtain ⟨indices, along⟩ := exists_failsAlong inner deep below
    exact ⟨index :: indices, .inside failsAt here holds along⟩
termination_by sizeOf items
decreasing_by
  have smaller := List.sizeOf_lt_of_mem (List.mem_of_getElem? here)
  simp only [Value.list.sizeOf_spec, List.cons.sizeOf_spec] at smaller
  omega

theorem failsAlong_path {items : List Value} {error : ScriptError}
    (failed : ofValue .root (.list items) = .error error) :
    FailsAlong error .root items error.path.indices := by
  rw [ofValue_list (Nat.zero_le _)] at failed
  obtain ⟨indices, along⟩ := exists_failsAlong items (Nat.zero_le _) failed
  have same : error.path.indices = indices := congrArg Path.indices along.path_eq
  rwa [same]

theorem ofValue_root_path_iff (value : Value) :
    (∃ error, ofValue .root value = .error error ∧ error.path = .root) ↔ value.list? = none := by
  cases value with
  | list items =>
    refine iff_of_false ?_ nofun
    rintro ⟨error, failed, root⟩
    exact (failsAlong_path failed).ne_nil (congrArg Path.indices root)
  | null | bool _ | number _ | text _ | object _ =>
    exact iff_of_true ⟨⟨.root, .malformed (.notList _)⟩, rfl, rfl⟩ rfl

/-- Reading a script fails with the path of the whole just when there is no list. A list fails at an
element of it, and for its form. At each level of the path the elements in front of the one named are
read, and the list fails with the same error whatever stands behind that one; so does the whole, whatever
stands behind at any of the levels. -/
theorem error_path_local (value : Value) (text : String) :
    ((∃ error, ofValue .root value = .error error ∧ error.path = .root) ↔ value.list? = none) ∧
    ((∃ error, ofText text = .error error ∧ error.path = .root) ↔
      ∀ items, Json.readText text ≠ .ok (.list items)) ∧
    ∀ items error, ofValue .root (.list items) = .error error →
      (∃ malformation, error.cause = .malformed malformation) ∧ error.path ≠ .root ∧
      (∀ outer index inner, error.path.indices = outer ++ index :: inner →
        ∃ list, listAt? items outer = some list ∧ index < list.length ∧
          (∃ actions, ofValue ⟨outer⟩ (.list (list.take index)) = .ok actions) ∧
          ∀ later, ofValue ⟨outer⟩ (.list (list.take (index + 1) ++ later)) = .error error) ∧
      ∀ others, AgreeUpTo error.path.indices items others →
        ofValue .root (.list others) = .error error := by
  refine ⟨ofValue_root_path_iff value, ?_, ?_⟩
  · rw [ofText]
    cases Json.readText text with
    | error error => exact iff_of_true ⟨_, rfl, rfl⟩ nofun
    | ok value =>
      dsimp only
      rw [ofValue_root_path_iff]
      cases value <;> simp [Value.list?]
  · intro items error failed
    have along := failsAlong_path failed
    refine ⟨along.malformed, fun root => along.ne_nil (congrArg Path.indices root), ?_, ?_⟩
    · intro outer index inner split
      obtain ⟨list, found, failsAt⟩ := along.levels outer index inner split
      exact ⟨list, found, failsAt.locality⟩
    · intro others agree
      rw [ofValue_list (Nat.zero_le _)]
      exact along.congr agree

/-- An error two levels down, in front of two other faults. -/
theorem error_path_local_of_click :
    let click : Value := .list [.text "click"]
    let exist (inner : List Value) : Value := .list [.text "exist", .text "#a", .list inner]
    let error : ScriptError := ⟨⟨[1, 1]⟩, .malformed (.wrongArity "click" 1 1 0)⟩
    ofValue .root (.list [.list [.text "refresh"], exist [.list [.text "refresh"], click, .null], .null]) =
        .error error ∧
      (∀ later, ofValue ⟨[1]⟩ (.list (.list [.text "refresh"] :: click :: later)) = .error error) ∧
      ∀ inner outer, ofValue .root (.list (.list [.text "refresh"] ::
        exist (.list [.text "refresh"] :: click :: inner) :: outer)) = .error error := by
  intro click exist error
  let items : List Value :=
    [.list [.text "refresh"], exist [.list [.text "refresh"], click, .null], .null]
  have failed : ofValue .root (.list items) = .error error := by rfl
  obtain ⟨_, _, fails⟩ := error_path_local .null ""
  obtain ⟨_, _, levels, agree⟩ := fails items error failed
  refine ⟨failed, fun later => ?_, fun inner outer => ?_⟩
  · obtain ⟨list, found, _, _, fails⟩ := levels [1] 1 [] rfl
    obtain rfl : _ = list := Option.some.inj found
    exact fails later
  · exact agree _ (.inside rfl rfl rfl (.here rfl))

end Replay.Script
