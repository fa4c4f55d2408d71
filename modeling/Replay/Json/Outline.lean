import Replay.Json.Token

/-!
The outline of a JSON text: its structure as far as the text is well formed, with the faults at the
places where they stand. A reader that expects certain fields goes through the outline in the order of
the text, so that it meets a wrong field and a syntax error in the order in which they occur.
-/

namespace Replay.Json

/-- Where a list, an object or a value breaks off: the fault, and the token that stands there. No
token is given at the end of the text, or if what is missing comes before the token. -/
structure Stop where
  fault : Fault
  token : Option Token
  deriving Repr

inductive Outline
  | null
  | bool (value : Bool)
  | number (value : Except ReadError Number)
  | text (value : Except ReadError String)
  /-- A list is closed unless it has a stop. -/
  | list (items : List Outline) (stop : Option Stop)
  | object (fields : List (Except ReadError String × Outline)) (stop : Option Stop)
  | broken (stop : Stop)
  deriving Repr, Inhabited

/-- A list or an object that is still open, its parts in reverse order. -/
inductive Frame
  | list (items : List Outline)
  | object (fields : List (Except ReadError String × Outline))
  | field (fields : List (Except ReadError String × Outline)) (key : Except ReadError String)
  deriving Repr

inductive Phase
  | value
  | firstItem
  | nextItem
  | afterItem
  | firstKey
  | nextKey
  | colon
  | afterField
  deriving DecidableEq, Repr

structure Document where
  root : Outline
  trailing : Bool
  deriving Repr

namespace Frame

def add (outline : Outline) : Frame → Frame
  | .list items => .list (outline :: items)
  | .object fields => .object fields
  | .field fields key => .object ((key, outline) :: fields)

def close (stop : Option Stop) : Frame → Outline
  | .list items => .list items.reverse stop
  | .object fields => .object fields.reverse stop
  | .field fields _ => .object fields.reverse stop

def phase : Frame → Phase
  | .list _ => .afterItem
  | _ => .afterField

end Frame

def abandon (outline : Outline) (frames : List Frame) : Document :=
  ⟨frames.foldl (fun inner frame => (frame.add inner).close none) outline, false⟩

def stopAt (fault : Fault) (token : Option Token) : List Frame → Document
  | [] => abandon (.broken ⟨fault, token⟩) []
  | frame :: frames => abandon (frame.close (some ⟨fault, token⟩)) frames

def stopAtValue (fault : Fault) (token : Option Token) (frames : List Frame) : Document :=
  abandon (.broken ⟨fault, token⟩) frames

def stopAtEnd (frames : List Frame) : Phase → Document
  | .value => stopAtValue (.same .eofValue) none frames
  | .firstItem => stopAt (.same .eofList) none frames
  | .nextItem => stopAtValue (.same .eofValue) none frames
  | .afterItem => stopAt (.same .eofList) none frames
  | .firstKey => stopAt (.same .eofObject) none frames
  | .nextKey => stopAt ⟨.eofValue, .eofObject⟩ none frames
  | .colon => stopAtValue (.same .eofObject) none frames
  | .afterField => stopAt (.same .eofObject) none frames

inductive Step
  | proceed (frames : List Frame) (phase : Phase)
  | complete (outline : Outline) (frames : List Frame)
  | stop (document : Document)
  deriving Repr

def Step.closing : List Frame → Step
  | [] => .stop (stopAtValue (.same .expectedValue) none [])
  | frame :: frames => .complete (frame.close none) frames

def valueStep (token : Token) (frames : List Frame) : Step :=
  match token with
  | .openList => .proceed (.list [] :: frames) .firstItem
  | .openObject => .proceed (.object [] :: frames) .firstKey
  | .null => .complete .null frames
  | .bool value => .complete (.bool value) frames
  | .number value => .complete (.number value) frames
  | .text value => .complete (.text value) frames
  | .broken _ fault => .stop (stopAtValue fault (some token) frames)
  | _ => .stop (stopAtValue (.same .expectedValue) (some token) frames)

def keyStep (token : Token) (frames : List Frame) : Step :=
  match token, frames with
  | .text key, .object fields :: frames => .proceed (.field fields key :: frames) .colon
  | .broken true fault, frames => .stop (stopAt fault (some token) frames)
  | _, frames => .stop (stopAt (.same .keyMustBeText) (some token) frames)

def step (token : Token) (frames : List Frame) : Phase → Step
  | .value => valueStep token frames
  | .firstItem =>
    match token with
    | .closeList => .closing frames
    | _ => valueStep token frames
  | .nextItem =>
    match token with
    | .closeList => .stop (stopAt ⟨.trailingComma, .expectedValue⟩ (some token) frames)
    | _ => valueStep token frames
  | .afterItem =>
    match token with
    | .comma => .proceed frames .nextItem
    | .closeList => .closing frames
    | _ => .stop (stopAt (.same .expectedListEnd) (some token) frames)
  | .firstKey =>
    match token with
    | .closeObject => .closing frames
    | _ => keyStep token frames
  | .nextKey =>
    match token with
    | .closeObject => .stop (stopAt ⟨.trailingComma, .keyMustBeText⟩ (some token) frames)
    | _ => keyStep token frames
  | .colon =>
    match token with
    | .colon => .proceed frames .value
    | _ => .stop (stopAtValue (.same .expectedColon) none frames)
  | .afterField =>
    match token with
    | .comma => .proceed frames .nextKey
    | .closeObject => .closing frames
    | _ => .stop (stopAt (.same .expectedObjectEnd) (some token) frames)

def outlineFrom (frames : List Frame) (phase : Phase) : List Token → Document
  | [] => stopAtEnd frames phase
  | token :: rest =>
    match step token frames phase with
    | .stop document => document
    | .proceed frames phase => outlineFrom frames phase rest
    | .complete outline [] => ⟨outline, rest ≠ []⟩
    | .complete outline (frame :: frames) =>
      outlineFrom (frame.add outline :: frames) frame.phase rest

def outline (source : Source) : Document := outlineFrom [] .value (tokens source)

def stopError : Option Stop → Except ReadError Unit
  | none => .ok ()
  | some stop => .error stop.fault.strict

mutual

/-- The value of an outline. `room` limits how deep lists and objects may nest. Of two fields with the
same key the last one counts. -/
def Outline.value (room : Nat) : Outline → Except ReadError Value
  | .null => .ok .null
  | .bool value => .ok (.bool value)
  | .number value => value.map .number
  | .text value => value.map .text
  | .list items stop =>
    if room ≤ 1 then .error .tooDeep
    else do
      let items ← itemValues (room - 1) items
      stopError stop
      return .list items
  | .object fields stop =>
    if room ≤ 1 then .error .tooDeep
    else do
      let fields ← fieldValues (room - 1) fields
      stopError stop
      return .object (fields.foldl (fun fields field => Entries.place field.1 field.2 fields) [])
  | .broken stop => .error stop.fault.strict

def itemValues (room : Nat) : List Outline → Except ReadError (List Value)
  | [] => .ok []
  | item :: rest => do
    let item ← item.value room
    return item :: (← itemValues room rest)

/-- The fields in the order of the text, repeated keys included. -/
def fieldValues (room : Nat) :
    List (Except ReadError String × Outline) → Except ReadError (List (String × Value))
  | [] => .ok []
  | (key, outline) :: rest => do
    let key ← key
    let value ← outline.value room
    return (key, value) :: (← fieldValues room rest)

end

def skipStop : Option Stop → Except ReadError Unit
  | none => .ok ()
  | some stop => .error stop.fault.lenient

mutual

def Outline.skip : Outline → Except ReadError Unit
  | .list items stop => do
    skipItems items
    skipStop stop
  | .object fields stop => do
    skipFields fields
    skipStop stop
  | .broken stop => .error stop.fault.lenient
  | _ => .ok ()

def skipItems : List Outline → Except ReadError Unit
  | [] => .ok ()
  | item :: rest => do
    item.skip
    skipItems rest

def skipFields : List (Except ReadError String × Outline) → Except ReadError Unit
  | [] => .ok ()
  | (_, outline) :: rest => do
    outline.skip
    skipFields rest

end

mutual

def Value.outline : Value → Outline
  | .null => .null
  | .bool value => .bool value
  | .number value => .number (.ok value)
  | .text value => .text (.ok value)
  | .list items => .list (itemOutlines items) none
  | .object fields => .object (fieldOutlines fields) none

def itemOutlines : List Value → List Outline
  | [] => []
  | item :: rest => item.outline :: itemOutlines rest

def fieldOutlines : List (String × Value) → List (Except ReadError String × Outline)
  | [] => []
  | (key, value) :: rest => (.ok key, value.outline) :: fieldOutlines rest

end

/-- The greatest nesting of lists and objects in a text, plus one. -/
def nestingRoom : Nat := 128

def Document.finish {α : Type} (document : Document) (value : α) : Except ReadError α :=
  if document.trailing then .error .trailingCharacters else .ok value

def read (source : Source) : Except ReadError Value := do
  let document := outline source
  document.finish (← document.root.value nestingRoom)

def sourceOf (text : String) : Source := text.toList.map some

def readText (text : String) : Except ReadError Value := read (sourceOf text)

end Replay.Json
