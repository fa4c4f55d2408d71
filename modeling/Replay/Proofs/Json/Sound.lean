import Replay.Json.Outline

namespace Replay.Json

/-- The token is one, and if it is a text, it has a value. -/
def Token.sound : Token → Bool
  | .text (.error _) => false
  | .broken _ _ => false
  | _ => true

namespace Outline

def HasValue (outline : Outline) : Prop := ∃ room value, outline.value room = .ok value

theorem not_hasValue_broken (stop : Stop) : ¬ (broken stop).HasValue := by
  rintro ⟨room, value, found⟩
  rw [Outline.value] at found
  cases found

theorem HasValue.sound {value : Except ReadError String} (has : (text value).HasValue) :
    (Token.text value).sound = true := by
  obtain ⟨room, found, same⟩ := has
  rw [Outline.value] at same
  cases value with
  | error error => cases same
  | ok content => rfl

theorem hasValue_of_itemValues {room : Nat} {items : List Outline} {values : List Value}
    (found : itemValues room items = .ok values) : ∀ item ∈ items, item.HasValue := by
  induction items generalizing values with
  | nil => exact List.forall_mem_nil _
  | cons item rest ih =>
    rw [itemValues] at found
    cases first : item.value room with
    | error error =>
      rw [first] at found
      cases found
    | ok value =>
      rw [first] at found
      cases others : itemValues room rest with
      | error error =>
        rw [others] at found
        cases found
      | ok values => exact List.forall_mem_cons.mpr ⟨⟨room, value, first⟩, ih others⟩

def FieldHasValue (field : Except ReadError String × Outline) : Prop :=
  (∃ key, field.1 = .ok key) ∧ field.2.HasValue

theorem hasValue_of_fieldValues {room : Nat} {fields : List (Except ReadError String × Outline)}
    {values : List (String × Value)} (found : fieldValues room fields = .ok values) :
    ∀ field ∈ fields, FieldHasValue field := by
  induction fields generalizing values with
  | nil => exact List.forall_mem_nil _
  | cons field rest ih =>
    obtain ⟨key, outline⟩ := field
    rw [fieldValues] at found
    cases key with
    | error error => cases found
    | ok key =>
      cases first : outline.value room with
      | error error =>
        simp [first, bind, Except.bind] at found
      | ok value =>
        cases others : fieldValues room rest with
        | error error => simp [first, others, bind, Except.bind] at found
        | ok values =>
          exact List.forall_mem_cons.mpr ⟨⟨⟨key, rfl⟩, room, value, first⟩, ih others⟩

theorem HasValue.items {items : List Outline} {stop : Option Stop} (has : (list items stop).HasValue) :
    stop = none ∧ ∀ item ∈ items, item.HasValue := by
  obtain ⟨room, value, found⟩ := has
  rw [Outline.value] at found
  split at found
  · cases found
  · cases values : itemValues (room - 1) items with
    | error error =>
      rw [values] at found
      cases found
    | ok parts =>
      cases stop with
      | none => exact ⟨rfl, hasValue_of_itemValues values⟩
      | some stop =>
        rw [values] at found
        cases found

theorem HasValue.fields {fields : List (Except ReadError String × Outline)} {stop : Option Stop}
    (has : (object fields stop).HasValue) :
    stop = none ∧ ∀ field ∈ fields, FieldHasValue field := by
  obtain ⟨room, value, found⟩ := has
  rw [Outline.value] at found
  split at found
  · cases found
  · cases values : fieldValues (room - 1) fields with
    | error error =>
      rw [values] at found
      cases found
    | ok parts =>
      cases stop with
      | none => exact ⟨rfl, hasValue_of_fieldValues values⟩
      | some stop =>
        rw [values] at found
        cases found

end Outline

inductive Kind
  | list
  | object
  | field
  deriving DecidableEq

/-- What is open innermost. A text begins as if its value were that of a field. -/
def Phase.kind : Phase → Kind
  | .firstItem | .nextItem | .afterItem => .list
  | .firstKey | .nextKey | .afterField => .object
  | .value | .colon => .field

namespace Frame

def kind : Frame → Kind
  | .list _ => .list
  | .object _ => .object
  | .field _ _ => .field

def HasValues : Frame → Prop
  | .list items => ∀ item ∈ items, item.HasValue
  | .object fields => ∀ field ∈ fields, Outline.FieldHasValue field
  | .field fields key => (∃ name, key = .ok name) ∧ ∀ field ∈ fields, Outline.FieldHasValue field

variable {frame : Frame} {outline : Outline}

theorem hasValues_of_add (awaits : frame.kind ≠ .object) (values : (frame.add outline).HasValues) :
    frame.HasValues ∧ outline.HasValue := by
  cases frame with
  | list items =>
    obtain ⟨first, others⟩ := List.forall_mem_cons.mp values
    exact ⟨others, first⟩
  | object fields => exact absurd rfl awaits
  | field fields key =>
    obtain ⟨⟨named, first⟩, others⟩ := List.forall_mem_cons.mp values
    exact ⟨⟨named, others⟩, first⟩

theorem hasValues_of_close (filled : frame.kind ≠ .field) {stop : Option Stop}
    (has : (frame.close stop).HasValue) : stop = none ∧ frame.HasValues := by
  cases frame with
  | list items =>
    obtain ⟨closed, values⟩ := has.items
    exact ⟨closed, fun item member => values item (List.mem_reverse.mpr member)⟩
  | object fields =>
    obtain ⟨closed, values⟩ := has.fields
    exact ⟨closed, fun field member => values field (List.mem_reverse.mpr member)⟩
  | field fields key => exact absurd rfl filled

theorem kind_add (awaits : frame.kind ≠ .object) (outline : Outline) :
    (frame.add outline).kind = frame.phase.kind ∧ (frame.add outline).kind ≠ .field := by
  cases frame with
  | list items => simp [add, kind, phase, Phase.kind]
  | object fields => exact absurd rfl awaits
  | field fields key => simp [add, kind, phase, Phase.kind]

end Frame

/-- The innermost frame is what the phase says, and each outer one awaits a value. -/
def Coherent (phase : Phase) : List Frame → Prop
  | [] => phase = .value
  | frame :: outer => frame.kind = phase.kind ∧ ∀ other ∈ outer, other.kind ≠ .object

def Document.HasValue (document : Document) : Prop :=
  document.root.HasValue ∧ document.trailing = false

theorem hasValue_of_abandon {outline : Outline} {frames : List Frame}
    (awaits : ∀ frame ∈ frames, frame.kind ≠ .object) (has : (abandon outline frames).HasValue) :
    outline.HasValue := by
  induction frames generalizing outline with
  | nil => exact has.1
  | cons frame frames ih =>
    obtain ⟨first, others⟩ := List.forall_mem_cons.mp awaits
    have closed : ((frame.add outline).close none).HasValue := ih others has
    have values := (Frame.hasValues_of_close (frame.kind_add first outline).2 closed).2
    exact (frame.hasValues_of_add first values).2

theorem not_hasValue_stopAtValue {frames : List Frame}
    (awaits : ∀ frame ∈ frames, frame.kind ≠ .object) (fault : Fault) (token : Option Token) :
    ¬ (stopAtValue fault token frames).HasValue :=
  fun has => Outline.not_hasValue_broken _ (hasValue_of_abandon awaits has)

section Coherent

variable {phase : Phase} {frames : List Frame}

theorem Coherent.awaits (coherent : Coherent phase frames) (awaits : phase.kind ≠ .object) :
    ∀ frame ∈ frames, frame.kind ≠ .object := by
  cases frames with
  | nil => exact List.forall_mem_nil _
  | cons frame outer =>
    refine List.forall_mem_cons.mpr ⟨?_, coherent.2⟩
    rw [coherent.1]
    exact awaits

theorem Coherent.change {next : Phase} (coherent : Coherent phase frames) (inside : phase ≠ .value)
    (same : phase.kind = next.kind) : Coherent next frames := by
  cases frames with
  | nil => exact absurd coherent inside
  | cons frame outer => exact ⟨coherent.1.trans same, coherent.2⟩

theorem not_hasValue_stopAt (coherent : Coherent phase frames) (filled : phase.kind ≠ .field)
    (fault : Fault) (token : Option Token) : ¬ (stopAt fault token frames).HasValue := by
  intro has
  cases frames with
  | nil => exact Outline.not_hasValue_broken _ has.1
  | cons frame outer =>
    have closed : (frame.close (some ⟨fault, token⟩)).HasValue := hasValue_of_abandon coherent.2 has
    have filled : frame.kind ≠ .field := by rwa [coherent.1]
    have none := (Frame.hasValues_of_close filled closed).1
    cases none

theorem not_hasValue_stopAtEnd (coherent : Coherent phase frames) :
    ¬ (stopAtEnd frames phase).HasValue := by
  cases phase with
  | value => exact not_hasValue_stopAtValue (coherent.awaits (by decide)) _ _
  | nextItem => exact not_hasValue_stopAtValue (coherent.awaits (by decide)) _ _
  | colon => exact not_hasValue_stopAtValue (coherent.awaits (by decide)) _ _
  | firstItem => exact not_hasValue_stopAt coherent (by decide) _ _
  | afterItem => exact not_hasValue_stopAt coherent (by decide) _ _
  | firstKey => exact not_hasValue_stopAt coherent (by decide) _ _
  | nextKey => exact not_hasValue_stopAt coherent (by decide) _ _
  | afterField => exact not_hasValue_stopAt coherent (by decide) _ _

end Coherent

/-- A step keeps the frames coherent. If what it leads to has values, so have the frames before it, and
its token is sound. -/
def Step.Keeps (token : Token) (frames : List Frame) : Step → Prop
  | .stop document => ¬ document.HasValue
  | .proceed after phase => Coherent phase after ∧
      ((∀ frame ∈ after, frame.HasValues) → token.sound = true ∧ ∀ frame ∈ frames, frame.HasValues)
  | .complete outline after => (∀ frame ∈ after, frame.kind ≠ .object) ∧
      (outline.HasValue → (∀ frame ∈ after, frame.HasValues) →
        token.sound = true ∧ ∀ frame ∈ frames, frame.HasValues)

section Steps

variable {phase : Phase} {frames : List Frame}

theorem valueStep_keeps (token : Token) (awaits : ∀ frame ∈ frames, frame.kind ≠ .object) :
    (valueStep token frames).Keeps token frames := by
  cases token with
  | openList => exact ⟨⟨rfl, awaits⟩, fun values => ⟨rfl, (List.forall_mem_cons.mp values).2⟩⟩
  | openObject => exact ⟨⟨rfl, awaits⟩, fun values => ⟨rfl, (List.forall_mem_cons.mp values).2⟩⟩
  | null => exact ⟨awaits, fun _ values => ⟨rfl, values⟩⟩
  | bool value => exact ⟨awaits, fun _ values => ⟨rfl, values⟩⟩
  | number value => exact ⟨awaits, fun _ values => ⟨rfl, values⟩⟩
  | text value => exact ⟨awaits, fun has values => ⟨has.sound, values⟩⟩
  | broken quoted fault => exact not_hasValue_stopAtValue awaits _ _
  | _ => exact not_hasValue_stopAtValue awaits _ _

theorem closing_keeps {token : Token} (sound : token.sound = true) (coherent : Coherent phase frames)
    (filled : phase.kind ≠ .field) : (Step.closing frames).Keeps token frames := by
  cases frames with
  | nil =>
    obtain rfl : phase = .value := coherent
    exact absurd rfl filled
  | cons frame outer =>
    refine ⟨coherent.2, ?_⟩
    intro has values
    have filled : frame.kind ≠ .field := by rwa [coherent.1]
    have inner := (Frame.hasValues_of_close filled has).2
    exact ⟨sound, List.forall_mem_cons.mpr ⟨inner, values⟩⟩

theorem keyStep_keeps (token : Token) (coherent : Coherent phase frames) (filled : phase.kind ≠ .field) :
    (keyStep token frames).Keeps token frames := by
  rw [keyStep.eq_def]
  split
  · next key fields outer =>
    refine ⟨⟨rfl, coherent.2⟩, ?_⟩
    intro values
    obtain ⟨⟨⟨name, named⟩, inner⟩, others⟩ := List.forall_mem_cons.mp values
    subst named
    exact ⟨rfl, List.forall_mem_cons.mpr ⟨inner, others⟩⟩
  · exact not_hasValue_stopAt coherent filled _ _
  · exact not_hasValue_stopAt coherent filled _ _

theorem proceed_keeps {token : Token} {next : Phase} (sound : token.sound = true)
    (coherent : Coherent next frames) : (Step.proceed frames next).Keeps token frames :=
  ⟨coherent, fun values => ⟨sound, values⟩⟩

theorem step_keeps (token : Token) (coherent : Coherent phase frames) :
    (step token frames phase).Keeps token frames := by
  cases phase with
  | value => exact valueStep_keeps token (coherent.awaits (by decide))
  | firstItem =>
    cases token with
    | closeList => exact closing_keeps rfl coherent (by decide)
    | _ => exact valueStep_keeps _ (coherent.awaits (by decide))
  | nextItem =>
    cases token with
    | closeList => exact not_hasValue_stopAt coherent (by decide) _ _
    | _ => exact valueStep_keeps _ (coherent.awaits (by decide))
  | afterItem =>
    cases token with
    | comma => exact proceed_keeps rfl (coherent.change (by decide) rfl)
    | closeList => exact closing_keeps rfl coherent (by decide)
    | _ => exact not_hasValue_stopAt coherent (by decide) _ _
  | firstKey =>
    cases token with
    | closeObject => exact closing_keeps rfl coherent (by decide)
    | _ => exact keyStep_keeps _ coherent (by decide)
  | nextKey =>
    cases token with
    | closeObject => exact not_hasValue_stopAt coherent (by decide) _ _
    | _ => exact keyStep_keeps _ coherent (by decide)
  | colon =>
    cases token with
    | colon => exact proceed_keeps rfl (coherent.change (by decide) rfl)
    | _ => exact not_hasValue_stopAtValue (coherent.awaits (by decide)) _ _
  | afterField =>
    cases token with
    | comma => exact proceed_keeps rfl (coherent.change (by decide) rfl)
    | closeObject => exact closing_keeps rfl coherent (by decide)
    | _ => exact not_hasValue_stopAt coherent (by decide) _ _

end Steps

theorem sound_of_outlineFrom {phase : Phase} {frames : List Frame} {tokens : List Token}
    (coherent : Coherent phase frames) (has : (outlineFrom frames phase tokens).HasValue) :
    (∀ frame ∈ frames, frame.HasValues) ∧ tokens.all Token.sound = true := by
  induction tokens generalizing phase frames with
  | nil => exact absurd has (not_hasValue_stopAtEnd coherent)
  | cons token rest ih =>
    have keeps := step_keeps token coherent
    rw [outlineFrom] at has
    rw [List.all_cons, Bool.and_eq_true]
    cases stepped : step token frames phase with
    | stop document =>
      rw [stepped] at keeps has
      exact absurd has keeps
    | proceed after next =>
      rw [stepped] at keeps has
      obtain ⟨values, others⟩ := ih keeps.1 has
      obtain ⟨sound, before⟩ := keeps.2 values
      exact ⟨before, sound, others⟩
    | complete outline after =>
      rw [stepped] at keeps has
      cases after with
      | nil =>
        -- the value of the whole text, behind which nothing stands
        obtain ⟨value, nothing⟩ := has
        have ended : rest = [] := by simpa using nothing
        obtain ⟨sound, before⟩ := keeps.2 value (List.forall_mem_nil _)
        exact ⟨before, sound, by rw [ended]; rfl⟩
      | cons frame outer =>
        obtain ⟨awaits, outerAwait⟩ := List.forall_mem_cons.mp keeps.1
        have again : Coherent frame.phase (frame.add outline :: outer) :=
          ⟨(frame.kind_add awaits outline).1, outerAwait⟩
        obtain ⟨values, others⟩ := ih again has
        obtain ⟨added, outerValues⟩ := List.forall_mem_cons.mp values
        obtain ⟨inner, value⟩ := frame.hasValues_of_add awaits added
        obtain ⟨sound, before⟩ := keeps.2 value (List.forall_mem_cons.mpr ⟨inner, outerValues⟩)
        exact ⟨before, sound, others⟩

/-- A text that can be read has sound tokens only. -/
theorem sound_of_read {source : Source} {value : Value} (found : read source = .ok value) :
    (tokens source).all Token.sound = true := by
  have has : (outline source).HasValue := by
    rw [read] at found
    cases root : (outline source).root.value nestingRoom with
    | error error =>
      rw [root] at found
      cases found
    | ok result =>
      rw [root] at found
      refine ⟨⟨nestingRoom, result, root⟩, ?_⟩
      cases trailing : (outline source).trailing with
      | false => rfl
      | true => simp [Document.finish, trailing, bind, Except.bind] at found
  have start : Coherent .value [] := rfl
  exact (sound_of_outlineFrom start has).2

end Replay.Json
