import Replay.Json.Outline
import Replay.Profile
import Replay.Text.Quoted

/-!
Reading a run profile from JSON text. The text is read in its order: a field of a wrong type comes
before a syntax error further on. Fields that are not known are passed over. A structure may also be
written as the list of its fields.
-/

namespace Replay

/-- The kind of a JSON value, as far as it decides whether a field can hold it. -/
inductive Shape
  | null
  | bool (value : Bool)
  | number (value : Json.Number)
  | text (value : String)
  | list
  | object
  deriving DecidableEq, Repr

def Shape.message : Shape → String
  | null => "null"
  | bool value => if value then "boolean `true`" else "boolean `false`"
  | number (.integer value) => s!"integer `{value}`"
  | number (.double value) =>
    "floating point `" ++ String.ofList (Json.binary64Text value) ++ "`"
  | text value => "string " ++ Text.quoteVisible value
  | list => "sequence"
  | object => "map"

inductive ProfileError
  | json (error : Json.ReadError)
  | invalidType (found : Shape) (wanted : String)
  | invalidValue (found : Shape) (wanted : String)
  | invalidLength (length : Nat) (wanted : String)
  | unknownVariant (name : String) (known : List String)
  | missingField (name : String)
  | duplicateField (name : String)
  deriving DecidableEq, Repr

namespace ProfileError

def quoteName (name : String) : String := "`" ++ name ++ "`"

def alternatives : List String → String
  | [one] => quoteName one
  | [one, other] => quoteName one ++ " or " ++ quoteName other
  | names => "one of " ++ String.intercalate ", " (names.map quoteName)

def message : ProfileError → String
  | json error => error.message
  | invalidType found wanted => s!"invalid type: {found.message}, expected {wanted}"
  | invalidValue found wanted => s!"invalid value: {found.message}, expected {wanted}"
  | invalidLength length wanted => s!"invalid length {length}, expected {wanted}"
  | unknownVariant name known =>
    s!"unknown variant {quoteName name}, expected {alternatives known}"
  | missingField name => s!"missing field {quoteName name}"
  | duplicateField name => s!"duplicate field {quoteName name}"

end ProfileError

namespace Profile.Reader

open Json (Outline Stop)

def ofJson {α : Type} : Except Json.ReadError α → Except ProfileError α
  | .ok value => .ok value
  | .error error => .error (.json error)

def shape : Outline → Except ProfileError Shape
  | .null => .ok .null
  | .bool value => .ok (.bool value)
  | .number value => ofJson (value.map .number)
  | .text value => ofJson (value.map .text)
  | .list .. => .ok .list
  | .object .. => .ok .object
  | .broken stop => .error (.json stop.fault.strict)

def text (wanted : String) (outline : Outline) : Except ProfileError String := do
  match ← shape outline with
  | .text value => return value
  | found => throw (.invalidType found wanted)

def string (outline : Outline) : Except ProfileError String := text "a string" outline

def bool (outline : Outline) : Except ProfileError Bool := do
  match ← shape outline with
  | .bool value => return value
  | found => throw (.invalidType found "a boolean")

def optionalString : Outline → Except ProfileError (Option String)
  | .null => return none
  | outline => some <$> string outline

def word (outline : Outline) : Except ProfileError Nat := do
  match ← shape outline with
  | .number (.integer value) =>
    if 0 ≤ value then return value.toNat
    else throw (.invalidValue (.number (.integer value)) "u64")
  | found => throw (.invalidType found "u64")

def double (outline : Outline) : Except ProfileError Binary64 := do
  match ← shape outline with
  | .number value => return value.toBinary64
  | found => throw (.invalidType found "f64")

def named {α : Type} (known : List (String × α)) (name : String) : Except ProfileError α :=
  match Entries.lookup name known with
  | some value => .ok value
  | none => .error (.unknownVariant name (known.map (·.1)))

def nothing (outline : Outline) : Except ProfileError Unit := do
  match ← shape outline with
  | .null => return ()
  | found => throw (.invalidType found "unit")

def stopped : Option Stop → Except ProfileError Unit
  | none => .ok ()
  | some stop => .error (.json stop.fault.strict)

abbrev Assign (α : Type) := String → Outline → α → Except ProfileError α

/-- Takes in the fields of an object. None may occur twice. -/
def fields {α : Type} (names : List String) (assign : Assign α) (seen : List String) (value : α) :
    List (Except Json.ReadError String × Outline) → Except ProfileError (α × List String)
  | [] => .ok (value, seen)
  | (key, outline) :: rest => do
    let key ← ofJson key
    if key ∈ names then
      if key ∈ seen then throw (.duplicateField key)
      fields names assign (key :: seen) (← assign key outline value) rest
    else
      ofJson outline.skip
      fields names assign seen value rest

/-- Takes in the fields of a structure that is written as a list; gives the names and the items that
are left over. -/
def items {α : Type} (assign : Assign α) (value : α) :
    List String → List Outline → Except ProfileError (α × List String × List Outline)
  | name :: names, outline :: rest => do items assign (← assign name outline value) names rest
  | names, rest => .ok (value, names, rest)

def listEnd (rest : List Outline) (stop : Option Stop) : Except ProfileError Unit :=
  match rest, stop with
  | [], none => .ok ()
  | [], some stop =>
    match stop.fault.strict with
    | .eofList => .error (.json .eofList)
    | .trailingComma => .error (.json .trailingComma)
    | _ => .error (.json .trailingCharacters)
  | _ :: _, _ => .error (.json .trailingCharacters)

def structureOf {α : Type} (wanted : String) (names : List String) (assign : Assign α) (start : α)
    (outline : Outline) : Except ProfileError (α × List String) := do
  match outline with
  | .object entries stop =>
    let result ← fields names assign [] start entries
    stopped stop
    return result
  | .list entries stop =>
    let (value, left, rest) ← items assign start names entries
    if left = [] then listEnd rest stop else stopped stop
    return (value, names.take (names.length - left.length))
  | _ => throw (.invalidType (← shape outline) wanted)

def bufferedStructure {α : Type} (wanted : String) (names : List String) (assign : Assign α)
    (start : α) (outline : Outline) : Except ProfileError α := do
  match outline with
  | .object entries _ => return (← fields names assign [] start entries).1
  | .list entries _ =>
    let (value, left, rest) ← items assign start names entries
    if rest = [] then return value
    else
      let count := names.length - left.length
      let noun := if count = 1 then "element" else "elements"
      throw (.invalidLength (count + rest.length) s!"{count} {noun} in sequence")
  | _ => throw (.invalidType (← shape outline) wanted)

def variantToken : Json.Token → ProfileError
  | .null => .invalidType .null "variant identifier"
  | .bool value => .invalidType (.bool value) "variant identifier"
  | .number (.ok value) => .invalidType (.number value) "variant identifier"
  | .number (.error error) => .json error
  | .openList => .invalidType .list "variant identifier"
  | .openObject => .invalidType .object "variant identifier"
  | .broken _ fault => .json fault.strict
  | _ => .json .expectedValue

/-- A variant without content: its name, or an object from its name to `null`. -/
def unitVariant {α : Type} (known : List (String × α)) : Outline → Except ProfileError α
  | .text name => do named known (← ofJson name)
  | .object [] stop =>
    match stop with
    | none => throw (.json .expectedValue)
    | some ⟨_, none⟩ => throw (.json .eofValue)
    | some ⟨_, some token⟩ => throw (variantToken token)
  | .object ((key, outline) :: rest) stop => do
    let value ← named known (← ofJson key)
    nothing outline
    match rest, stop with
    | [], none => return value
    | [], some stop =>
      throw (.json (if stop.fault.strict = .eofObject then .eofObject else .expectedValue))
    | _ :: _, _ => throw (.json .expectedValue)
  | .broken ⟨fault, none⟩ => throw (.json fault.strict)
  | .broken ⟨_, some (.broken true fault)⟩ => throw (.json fault.strict)
  | _ => throw (.json .expectedValue)

def bufferedVariant {α : Type} (known : List (String × α)) (outline : Outline) :
    Except ProfileError α := do
  match outline with
  | .text name => named known (← ofJson name)
  | .object [(key, content)] _ =>
    let value ← named known (← ofJson key)
    match content with
    | .object [] _ => return value
    | _ =>
      nothing content
      return value
  | .object _ _ => throw (.invalidValue .object "map with a single key")
  | _ => throw (.invalidType (← shape outline) "string or map")

def strategies : List (String × LocatorStrategy) :=
  [LocatorStrategy.xpath, .css].map fun strategy => (strategy.name, strategy)

def webDriverFields : List String :=
  ["endpoint", "browser_name", "headless", "user_data_directory", "profile_directory",
    "implicit_wait_secs", "request_timeout_secs", "locator_strategy"]

def assignWebDriver : Assign BrowserSettings := fun name outline settings => do
  match name with
  | "endpoint" => return { settings with endpoint := ← string outline }
  | "browser_name" => return { settings with browserName := ← string outline }
  | "headless" => return { settings with headless := ← bool outline }
  | "user_data_directory" => return { settings with userDataDirectory := ← optionalString outline }
  | "profile_directory" => return { settings with profileDirectory := ← optionalString outline }
  | "implicit_wait_secs" => return { settings with implicitWaitSecs := ← double outline }
  | "request_timeout_secs" => return { settings with requestTimeoutSecs := ← word outline }
  | _ => return { settings with locatorStrategy := ← bufferedVariant strategies outline }

inductive BackendTag
  | webDriver
  | desktop
  | dryRun
  deriving DecidableEq, Repr

def backendTags : List (String × BackendTag) :=
  [("webdriver", .webDriver), ("desktop", .desktop), ("dry_run", .dryRun)]

def backendTag (outline : Outline) : Except ProfileError BackendTag := do
  named backendTags (← text "variant identifier" outline)

/-- How deep the parts of a backend may still nest: the profile and the backend are two levels. -/
def backendRoom : Nat := Json.nestingRoom - 2

def buffered (outline : Outline) : Except ProfileError Unit :=
  ofJson ((outline.value backendRoom).map fun _ => ())

def backendFields (tag : Option BackendTag) :
    List (Except Json.ReadError String × Outline) →
      Except ProfileError (Option BackendTag × List (Except Json.ReadError String × Outline))
  | [] => .ok (tag, [])
  | (key, outline) :: rest => do
    let key ← ofJson key
    if key = "type" then
      if tag.isSome then throw (.duplicateField "type")
      backendFields (some (← backendTag outline)) rest
    else
      buffered outline
      let (tag, others) ← backendFields tag rest
      return (tag, (.ok key, outline) :: others)

def bufferedItems : List Outline → Except ProfileError Unit
  | [] => .ok ()
  | item :: rest => do
    buffered item
    bufferedItems rest

def backendParts (outline : Outline) : Except ProfileError (BackendTag × Outline) := do
  match outline with
  | .object entries stop =>
    let (tag, others) ← backendFields none entries
    stopped stop
    match tag with
    | none => throw (.missingField "type")
    | some tag => return (tag, .object others none)
  | .list [] stop =>
    stopped stop
    throw (.missingField "type")
  | .list (first :: rest) stop =>
    let tag ← backendTag first
    bufferedItems rest
    stopped stop
    return (tag, .list rest none)
  | _ => throw (.invalidType (← shape outline) "internally tagged enum BackendConfig")

def assignDryRun : Assign Bool := fun _ outline _ => bool outline

def backend (outline : Outline) : Except ProfileError BackendChoice := do
  let (tag, content) ← backendParts outline
  match tag with
  | .webDriver =>
    return .webDriver
      (← bufferedStructure "struct WebDriverSettings" webDriverFields assignWebDriver {} content)
  | .desktop =>
    match content with
    | .list items _ =>
      if items = [] then return .desktop
      else throw (.invalidLength items.length "0 elements in sequence")
    | _ => return .desktop
  | .dryRun =>
    return .dryRun (← bufferedStructure "struct variant BackendConfig::DryRun"
      ["assume_present"] assignDryRun true content)

def missingTexts : List (String × MissingText) :=
  [MissingText.skip, .diagnostic].map fun policy => (policy.name, policy)

def assignRun : Assign RunSettings := fun name outline settings => do
  match name with
  | "loop_delay_ms" => return { settings with loopDelayMillis := ← word outline }
  | _ => return { settings with missingText := ← unitVariant missingTexts outline }

def runSettings (outline : Outline) : Except ProfileError RunSettings := do
  return (← structureOf "struct InterpreterSettings" ["loop_delay_ms", "missing_text"] assignRun {}
    outline).1

def strings : List Outline → Except ProfileError (List String)
  | [] => .ok []
  | item :: rest => do
    let item ← string item
    return item :: (← strings rest)

def stringList (outline : Outline) : Except ProfileError (List String) := do
  match outline with
  | .list entries stop =>
    let values ← strings entries
    stopped stop
    return values
  | _ => throw (.invalidType (← shape outline) "a sequence")

def profileFields : List String := ["store", "actions_section", "backend", "interpreter", "runs"]

def assignProfile : Assign Profile := fun name outline profile => do
  match name with
  | "store" => return { profile with store := ← string outline }
  | "actions_section" => return { profile with actionsSection := ← string outline }
  | "backend" => return { profile with backend := ← backend outline }
  | "interpreter" => return { profile with run := ← runSettings outline }
  | _ => return { profile with runs := ← stringList outline }

/-- A profile as an object lacks nothing but, at most, fields that have a default; as a list it has at
least its first field. -/
def profile (outline : Outline) : Except ProfileError Profile := do
  match outline with
  | .list [] none => throw (.invalidLength 0 "struct Profile with 5 elements")
  | .object entries stop =>
    let (profile, seen) ← fields profileFields assignProfile [] { store := "" } entries
    stopped stop
    if "store" ∈ seen then return profile else throw (.missingField "store")
  | _ =>
    return (← structureOf "struct Profile" profileFields assignProfile { store := "" } outline).1

def read (source : Json.Source) : Except ProfileError Profile := do
  let document := Json.outline source
  let profile ← profile document.root
  ofJson (document.finish profile)

end Profile.Reader

end Replay
