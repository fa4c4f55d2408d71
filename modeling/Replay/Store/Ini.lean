import Replay.Store
import Replay.Text.Split

/-!
Reading a store from INI text: `[section]` headers, `key = value` or `key: value` entries, indented
lines that go on with the value above, and comment lines that start with a number sign or a semicolon.
-/

namespace Replay

/-- Why a text is no INI store. The line counts from one. -/
inductive IniError
  | missingHeader (line : Nat)
  | repeatedSection (line : Nat) (name : String)
  | repeatedKey (line : Nat) (name key : String)
  | malformed (line : Nat) (content : String)
  deriving DecidableEq, Repr

namespace IniError

def message : IniError → String
  | missingHeader line => s!"line {line}: entry appears before any [section] header"
  | repeatedSection line name => s!"line {line}: section [{name}] is defined more than once"
  | repeatedKey line name key => s!"line {line}: key '{key}' is defined more than once in [{name}]"
  | malformed line content => s!"line {line}: expected `key = value`, found '{content}'"

end IniError

namespace Ini

open Text

/-- Blank lines and comments say nothing. The line is given trimmed. -/
def isSilent : List Char → Bool
  | [] => true
  | c :: _ => c == '#' || c == ';'

def headerName? : List Char → Option (List Char)
  | '[' :: rest => if rest.getLast? = some ']' then some (trim rest.dropLast) else none
  | _ => none

def entry? (line : List Char) : Option (String × String) :=
  (cutAtFirst (fun c => c == '=' || c == ':') line).bind fun parts =>
    let key := normalKey (String.ofList parts.1)
    if key = "" then none else some (key, String.ofList (trim parts.2))

def extendValue (value : String) (line : List Char) : String :=
  if value = "" then String.ofList line else value ++ "\n" ++ String.ofList line

/-- The store read so far, and the section and the key that the next line belongs to. -/
structure Cursor where
  store : Store
  name? : Option String
  key? : Option String
  deriving DecidableEq, Repr

namespace Cursor

def start : Cursor := ⟨∅, none, none⟩

def continueValue (cursor : Cursor) (name key : String) (line : List Char) : Cursor :=
  match cursor.store.sections.get? name with
  | none => cursor
  | some entries =>
    match entries.get? key with
    | none => cursor
    | some value =>
      { cursor with store :=
          ⟨cursor.store.sections.insert name (entries.insert key (extendValue value line))⟩ }

def openSection (cursor : Cursor) (line : Nat) (name : String) : Except IniError Cursor :=
  if cursor.store.sections.contains name then .error (.repeatedSection line name)
  else .ok ⟨⟨cursor.store.sections.insert name ∅⟩, some name, none⟩

def addEntry (cursor : Cursor) (line : Nat) (content : List Char) : Except IniError Cursor :=
  match cursor.name? with
  | none => .error (.missingHeader line)
  | some name =>
    match entry? content with
    | none => .error (.malformed line (String.ofList content))
    | some (key, value) =>
      let entries := (cursor.store.sections.get? name).getD ∅
      if entries.contains key then .error (.repeatedKey line name key)
      else .ok ⟨⟨cursor.store.sections.insert name (entries.insert key value)⟩, some name, some key⟩

/-- Reads one line: silent, a continuation, a header or an entry, whichever fits first. -/
def readLine (cursor : Cursor) (line : Nat) (raw : List Char) : Except IniError Cursor :=
  let content := trim raw
  if isSilent content then .ok cursor
  else
    match startsBlank raw, cursor.name?, cursor.key? with
    | true, some name, some key => .ok (cursor.continueValue name key content)
    | _, _, _ =>
      match headerName? content with
      | some name => cursor.openSection line (String.ofList name)
      | none => cursor.addEntry line content

def readLines (cursor : Cursor) (line : Nat) : List (List Char) → Except IniError Cursor
  | [] => .ok cursor
  | raw :: rest =>
    match cursor.readLine line raw with
    | .ok next => next.readLines (line + 1) rest
    | .error error => .error error

end Cursor

end Ini

def Store.ofIni (text : String) : Except IniError Store :=
  (Ini.Cursor.start.readLines 1 (Text.lines text.toList)).map (·.store)

end Replay
