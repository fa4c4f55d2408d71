import Replay.Proofs.Number.Exact
import Replay.Proofs.Script.Spelling

namespace Replay.Script

open Json (Value)

theorem bind_eq_ok {ε α β : Type} {first : Except ε α} {next : α → Except ε β} {result : β} :
    (first >>= next) = .ok result ↔ ∃ value, first = .ok value ∧ next value = .ok result := by
  cases first <;> simp [bind, Except.bind]

section Arguments

variable {path : Path} {command : String}

theorem arity_eq_ok {args : List Value} {least most : Nat} {done : Unit} :
    arity path command args least most = .ok done ↔ least ≤ args.length ∧ args.length ≤ most := by
  rw [arity]
  split <;> simp_all [malformed]

theorem textArg_eq_ok {index : Nat} {value : Value} {text : String} :
    textArg path command index value = .ok text ↔ value = .text text := by
  cases value <;> simp [textArg, malformed]

theorem readMode_eq_ok {value : Value} {mode : TypingMode} :
    readMode path value = .ok mode ↔ value = .text (modeName mode) := by
  constructor
  · intro read
    rw [readMode] at read
    split at read
    · cases read
    · next named =>
      obtain rfl := Except.ok.inj read
      exact textArg_eq_ok.mp named
    · next named =>
      obtain rfl := Except.ok.inj read
      exact textArg_eq_ok.mp named
    · next named =>
      obtain rfl := Except.ok.inj read
      exact textArg_eq_ok.mp named
    · cases read
  · rintro rfl
    cases mode <;> rfl

theorem readDuration_eq_ok {value : Value} {nanos : Nat} :
    readDuration path value = .ok nanos ↔ SpellsSpan nanos value := by
  constructor
  · intro read
    rw [readDuration] at read
    split at read
    · cases read
    · next seconds found =>
      split at read
      · next whole =>
        obtain rfl := Except.ok.inj read
        cases value with
        | number number =>
          obtain rfl := Option.some.inj found
          exact .number whole
        | text text => exact .text found whole
        | null | bool _ | list _ | object _ => cases found
      · cases read
  · intro spelled
    cases spelled with
    | number whole => simp only [readDuration, seconds?, whole]
    | text numeral whole => simp only [readDuration, seconds?, numeral, whole]

theorem typeText_eq_ok {locator text : Value} {mode? : Option Value} {action : Action} :
    typeText path locator text mode? = .ok action ↔ ∃ l t mode, locator = .text l ∧ text = .text t ∧
      (mode? = none ∧ mode = .literal ∨ mode? = some (.text (modeName mode))) ∧
      (mode = .loop → t = "") ∧ action = .typeText l t mode := by
  have closing (l t : String) (mode : TypingMode) :
      (if mode = .loop ∧ t ≠ "" then malformed path .loopModeWithText
        else pure (.typeText l t mode)) = Except.ok action ↔
      (mode = .loop → t = "") ∧ action = .typeText l t mode := by
    by_cases clash : mode = .loop ∧ t ≠ ""
    · rw [if_pos clash]
      exact iff_of_false nofun fun both => clash.2 (both.1 clash.1)
    · rw [if_neg clash]
      constructor
      · intro result
        refine ⟨fun loop => ?_, (Except.ok.inj result).symm⟩
        exact Decidable.byContradiction fun long => clash ⟨loop, long⟩
      · rintro ⟨_, rfl⟩
        rfl
  cases mode? with
  | none =>
    simp only [typeText, bind_eq_ok, textArg_eq_ok, closing]
    constructor
    · rintro ⟨l, first, t, second, mode, chosen, rest⟩
      obtain rfl := Except.ok.inj chosen
      exact ⟨l, t, .literal, first, second, .inl ⟨trivial, rfl⟩, rest⟩
    · rintro ⟨l, t, mode, first, second, ⟨_, rfl⟩ | named, rest⟩
      · exact ⟨l, first, t, second, .literal, rfl, rest⟩
      · cases named
  | some value =>
    simp only [typeText, bind_eq_ok, textArg_eq_ok, readMode_eq_ok, closing]
    constructor
    · rintro ⟨l, first, t, second, mode, rfl, rest⟩
      exact ⟨l, t, mode, first, second, .inr rfl, rest⟩
    · rintro ⟨l, t, mode, first, second, ⟨absent, _⟩ | named, rest⟩
      · cases absent
      · exact ⟨l, first, t, second, mode, Option.some.inj named, rest⟩

theorem readTextAction_eq_ok {locator : Value} {label? : Option Value} {action : Action} :
    readTextAction path locator label? = .ok action ↔ ∃ l label, locator = .text l ∧
      label? = label.map .text ∧ action = .readText l label := by
  cases label? with
  | none =>
    simp only [readTextAction, bind_eq_ok, textArg_eq_ok]
    constructor
    · rintro ⟨label, absent, l, first, result⟩
      obtain rfl := Except.ok.inj absent
      exact ⟨l, none, first, rfl, (Except.ok.inj result).symm⟩
    · rintro ⟨l, label, first, absent, rfl⟩
      cases label with
      | none => exact ⟨none, rfl, l, first, rfl⟩
      | some label => cases absent
  | some value =>
    have labelled (label : Option String) :
        some <$> textArg path "text" 1 value = .ok label ↔ some value = label.map .text := by
      cases value <;> cases label <;> simp [textArg, malformed, Functor.map, Except.map, eq_comm]
    simp only [readTextAction, bind_eq_ok, textArg_eq_ok, labelled]
    constructor
    · rintro ⟨label, present, l, first, result⟩
      exact ⟨l, label, first, present, (Except.ok.inj result).symm⟩
    · rintro ⟨l, label, first, present, rfl⟩
      exact ⟨label, present, l, first, rfl⟩

end Arguments

theorem oneText_eq_ok {path : Path} {command : String} {args : List Value} {build : String → Action}
    {action : Action} :
    (do arity path command args 1 1; return build (← textArg path command 0 (args.getD 0 .null)) :
        Except ScriptError Action) = .ok action ↔
      ∃ text, args = [.text text] ∧ action = build text := by
  simp only [bind_eq_ok, arity_eq_ok, textArg_eq_ok]
  constructor
  · rintro ⟨_, ⟨least, most⟩, text, first, result⟩
    obtain ⟨value, rfl⟩ := List.length_eq_one_iff.mp (Nat.le_antisymm most least)
    obtain rfl : value = .text text := first
    exact ⟨text, rfl, (Except.ok.inj result).symm⟩
  · rintro ⟨text, rfl, rfl⟩
    exact ⟨(), ⟨Nat.le_refl _, Nat.le_refl _⟩, text, rfl, rfl⟩

theorem spells_typeText {args : List Value} {locator text : String} {mode : TypingMode}
    (least : 2 ≤ args.length) (most : args.length ≤ 3) (first : args.getD 0 .null = .text locator)
    (second : args.getD 1 .null = .text text)
    (third : args[2]? = none ∧ mode = .literal ∨ args[2]? = some (.text (modeName mode))) :
    SpellsAction (.typeText locator text mode) (.list (.text "send_keys" :: args)) := by
  match args, least, most with
  | [_, _], _, _ =>
    obtain rfl : _ = Value.text locator := first
    obtain rfl : _ = Value.text text := second
    obtain ⟨_, rfl⟩ | named := third
    · exact .typeLiteral
    · cases named
  | [_, _, _], _, _ =>
    obtain rfl : _ = Value.text locator := first
    obtain rfl : _ = Value.text text := second
    obtain ⟨absent, _⟩ | named := third
    · cases absent
    · obtain rfl := Option.some.inj named
      exact .typeText

theorem spells_readText {args : List Value} {locator : String} {label : Option String}
    (least : 1 ≤ args.length) (most : args.length ≤ 2) (first : args.getD 0 .null = .text locator)
    (second : args[1]? = label.map .text) :
    SpellsAction (.readText locator label) (.list (.text "text" :: args)) := by
  match args, least, most with
  | [_], _, _ =>
    obtain rfl : _ = Value.text locator := first
    cases label with
    | none => exact .unlabelled
    | some label => cases second
  | [_, _], _, _ =>
    obtain rfl : _ = Value.text locator := first
    cases label with
    | none => cases second
    | some label =>
      obtain rfl := Option.some.inj second
      exact .labelled

theorem simpleAction?_sound {path : Path} {command : String} {args : List Value} {action : Action}
    (read : simpleAction? path command args = some (.ok action)) :
    SpellsAction action (.list (.text command :: args)) ∧
      action.placed path = [(path, action)] ∧ Fits (path, action) := by
  unfold simpleAction? at read
  split at read
  · obtain ⟨text, rfl, rfl⟩ := oneText_eq_ok.mp (Option.some.inj read)
    exact ⟨.navigate, rfl, trivial⟩
  · obtain ⟨text, rfl, rfl⟩ := oneText_eq_ok.mp (Option.some.inj read)
    exact ⟨.click, rfl, trivial⟩
  · obtain ⟨text, rfl, rfl⟩ := oneText_eq_ok.mp (Option.some.inj read)
    exact ⟨.clear, rfl, trivial⟩
  · simp only [Option.some.injEq, bind_eq_ok, arity_eq_ok, typeText_eq_ok] at read
    obtain ⟨_, ⟨least, most⟩, l, t, mode, first, second, third, empty, rfl⟩ := read
    have fits : Fits (path, .typeText l t mode) := by
      cases mode with
      | literal | submit => trivial
      | loop => exact empty rfl
    exact ⟨spells_typeText least most first second third, rfl, fits⟩
  · simp only [Option.some.injEq, bind_eq_ok, arity_eq_ok, readDuration_eq_ok] at read
    obtain ⟨_, ⟨least, most⟩, nanos, span, result⟩ := read
    obtain ⟨value, rfl⟩ := List.length_eq_one_iff.mp (Nat.le_antisymm most least)
    obtain rfl := Except.ok.inj result
    exact ⟨.wait span, rfl, trivial⟩
  · simp only [Option.some.injEq, bind_eq_ok, arity_eq_ok] at read
    obtain ⟨_, ⟨_, most⟩, result⟩ := read
    obtain rfl := List.eq_nil_of_length_eq_zero (Nat.le_zero.mp most)
    obtain rfl := Except.ok.inj result
    exact ⟨.refresh, rfl, trivial⟩
  · simp only [Option.some.injEq, bind_eq_ok, arity_eq_ok, readTextAction_eq_ok] at read
    obtain ⟨_, ⟨least, most⟩, l, label, first, second, rfl⟩ := read
    exact ⟨spells_readText least most first second, rfl, trivial⟩
  · cases read

theorem fits_of_alone {path : Path} {action : Action} (alone : action.placed path = [(path, action)])
    (fits : Fits (path, action)) : ∀ p ∈ action.placed path, Fits p := by
  rw [alone]
  exact List.forall_mem_singleton.mpr fits

theorem getD_malformed_eq_ok {path : Path} {malformation : Malformation}
    {read? : Option (Except ScriptError Action)} {action : Action} :
    read?.getD (malformed path malformation) = .ok action ↔ read? = some (.ok action) := by
  cases read? <;> simp [malformed]

theorem withBody_eq_ok {path : Path} {command : String} {first body : Value}
    {build : String → List Action → Action} {action : Action} :
    (do let text ← textArg path command 0 first; return build text (← ofValue path body) :
        Except ScriptError Action) = .ok action ↔
      ∃ text script, first = .text text ∧ ofValue path body = .ok script ∧
        action = build text script := by
  simp only [bind_eq_ok, textArg_eq_ok]
  constructor
  · rintro ⟨text, isText, script, read, result⟩
    exact ⟨text, script, isText, read, (Except.ok.inj result).symm⟩
  · rintro ⟨text, script, isText, read, rfl⟩
    exact ⟨text, isText, script, read, rfl⟩

-- the four readers call each other on parts of the value, and so do these theorems
mutual

theorem ofValue_sound {path : Path} {script : List Action} (value : Value)
    (read : ofValue path value = .ok script) :
    path.depth ≤ maxNesting ∧ (∃ items, value = .list items ∧ SpellsActions script items) ∧
      ∀ p ∈ placedFrom path 0 script, Fits p := by
  unfold ofValue at read
  split at read
  · cases read
  · next shallow =>
    match value, read with
    | .list items, read =>
      obtain ⟨spelled, fits⟩ := ofItems_sound items read
      exact ⟨Nat.le_of_not_lt shallow, ⟨items, rfl, spelled⟩, fits⟩

theorem ofItems_sound {parent : Path} {index : Nat} {script : List Action} (items : List Value)
    (read : ofItems parent index items = .ok script) :
    SpellsActions script items ∧ ∀ p ∈ placedFrom parent index script, Fits p := by
  match items, read with
  | [], read =>
    obtain rfl := Except.ok.inj read
    exact ⟨.nil, by simp [placedFrom]⟩
  | item :: rest, read =>
    rw [ofItems, bind_eq_ok] at read
    obtain ⟨action, first, read⟩ := read
    obtain ⟨actions, others, result⟩ := bind_eq_ok.mp read
    obtain rfl := Except.ok.inj result
    obtain ⟨spelled, fits⟩ := actionOfValue_sound item first
    obtain ⟨spelledRest, fitsRest⟩ := ofItems_sound rest others
    refine ⟨.cons spelled spelledRest, ?_⟩
    simp only [placedFrom, List.mem_append]
    rintro p (below | below)
    · exact fits p below
    · exact fitsRest p below

theorem actionOfValue_sound {path : Path} {action : Action} (value : Value)
    (read : actionOfValue path value = .ok action) :
    SpellsAction action value ∧ ∀ p ∈ action.placed path, Fits p := by
  match value, read with
  | .list (.text command :: args), read => exact actionOfParts_sound args read

theorem actionOfParts_sound {path : Path} {command : String} {action : Action} (args : List Value)
    (read : actionOfParts path command args = .ok action) :
    SpellsAction action (.list (.text command :: args)) ∧ ∀ p ∈ action.placed path, Fits p := by
  match args, read with
  | [first, body], read =>
    simp only [actionOfParts] at read
    split at read
    · obtain ⟨locator, script, rfl, inner, rfl⟩ := withBody_eq_ok.mp read
      obtain ⟨shallow, ⟨items, rfl, spelled⟩, fits⟩ := ofValue_sound body inner
      exact ⟨.ifExists spelled, List.forall_mem_cons.mpr ⟨shallow, fits⟩⟩
    · obtain ⟨source, script, rfl, inner, rfl⟩ := withBody_eq_ok.mp read
      obtain ⟨shallow, ⟨items, rfl, spelled⟩, fits⟩ := ofValue_sound body inner
      exact ⟨.forEachToken spelled, List.forall_mem_cons.mpr ⟨shallow, fits⟩⟩
    · obtain ⟨spelled, alone, fits⟩ := simpleAction?_sound (getD_malformed_eq_ok.mp read)
      exact ⟨spelled, fits_of_alone alone fits⟩
  | [], read | [_], read | _ :: _ :: _ :: _, read =>
    simp only [actionOfParts] at read
    split at read
    · cases read
    · obtain ⟨spelled, alone, fits⟩ := simpleAction?_sound (getD_malformed_eq_ok.mp read)
      exact ⟨spelled, fits_of_alone alone fits⟩

end

theorem typeText_fits {path : Path} {locator text : String} {mode : TypingMode}
    (fits : Fits (path, .typeText locator text mode)) : mode = .loop → text = "" := by
  rintro rfl
  exact fits

-- by recursion on the spelling: it has a case for each form that the readers tell apart
mutual

theorem ofValue_complete {path : Path} {script : List Action} {items : List Value}
    (spelled : SpellsActions script items) (shallow : path.depth ≤ maxNesting)
    (fits : ∀ p ∈ placedFrom path 0 script, Fits p) :
    ofValue path (.list items) = .ok script := by
  rw [ofValue, if_neg (Nat.not_lt_of_le shallow)]
  exact ofItems_complete spelled fits

theorem ofItems_complete {parent : Path} {index : Nat} {script : List Action} {items : List Value}
    (spelled : SpellsActions script items) (fits : ∀ p ∈ placedFrom parent index script, Fits p) :
    ofItems parent index items = .ok script := by
  match spelled with
  | .nil => rfl
  | .cons first rest =>
    simp only [placedFrom, List.forall_mem_append] at fits
    rw [ofItems, actionOfValue_complete first fits.1, ofItems_complete rest fits.2]
    rfl

theorem actionOfValue_complete {path : Path} {action : Action} {value : Value}
    (spelled : SpellsAction action value) (fits : ∀ p ∈ action.placed path, Fits p) :
    actionOfValue path value = .ok action := by
  match spelled with
  | .navigate | .click | .clear | .refresh | .unlabelled | .labelled => rfl
  | .typeLiteral => rfl
  | @SpellsAction.typeText locator text mode =>
    have empty := typeText_fits (fits _ List.mem_cons_self)
    exact typeText_eq_ok.mpr ⟨locator, text, mode, rfl, rfl, .inr rfl, empty, rfl⟩
  | @SpellsAction.wait nanos span spelled =>
    have opened : actionOfValue path (.list [.text "sleep", span]) =
        (readDuration path span >>= fun nanos => .ok (.wait nanos)) := rfl
    rw [opened, readDuration_eq_ok.mpr spelled]
    rfl
  | @SpellsAction.ifExists locator body items inner =>
    simp only [Action.placed, List.forall_mem_cons] at fits
    exact withBody_eq_ok.mpr ⟨locator, body, rfl, ofValue_complete inner fits.1 fits.2, rfl⟩
  | @SpellsAction.forEachToken source body items inner =>
    simp only [Action.placed, List.forall_mem_cons] at fits
    exact withBody_eq_ok.mpr ⟨source, body, rfl, ofValue_complete inner fits.1 fits.2, rfl⟩

end

/-- The values that are read as a script are those that spell it, if its actions fit. -/
theorem ofValue_root_eq_ok {value : Value} {script : List Action} :
    ofValue .root value = .ok script ↔
      (∀ p ∈ placed script, Fits p) ∧ ∃ items, value = .list items ∧ SpellsActions script items := by
  constructor
  · intro read
    obtain ⟨_, spelled, fits⟩ := ofValue_sound value read
    exact ⟨fits, spelled⟩
  · rintro ⟨fits, items, rfl, spelled⟩
    exact ofValue_complete spelled (Nat.zero_le _) fits

end Replay.Script
