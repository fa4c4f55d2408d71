import Replay.Files
import Replay.Profile.Reader
import Replay.Profile.Validation
import Replay.Store.Ini
import Replay.Text.Utf8

/-!
Loading stores and profiles from text and from files. How a file is read is left open, so that the
rules hold for files on a disk as for files in memory.
-/

namespace Replay

inductive LoadError
  | profileText (error : ProfileError)
  | profileStream (error : ProfileError)
  | profileFile (path : String) (error : ProfileError)
  | unreadableStream (error : Files.FileError)
  | unopenedProfile (path : String) (error : Files.FileError)
  | unreadProfile (path : String) (error : Files.FileError)
  | invalidProfile (fault : ProfileFault)
  | unreadStore (path : String) (error : Files.FileError)
  | malformedStore (path : String) (error : IniError)
  deriving Repr

def LoadError.chain : LoadError → List String
  | profileText error => ["Failed to parse JSON profile string into Profile", error.message]
  | profileStream error => ["Failed to parse JSON profile from reader", error.message]
  | profileFile path error => [s!"Failed to parse JSON profile from {path}", error.message]
  | unreadableStream error => ["Failed to parse JSON profile from reader", error.message]
  | unopenedProfile path error => [s!"Failed to open profile {path}", error.message]
  | unreadProfile path error => [s!"Failed to read profile {path}", error.message]
  | invalidProfile fault => [fault.message]
  | unreadStore path error => [s!"Failed to read store file {path}", error.message]
  | malformedStore path error => [s!"Failed to parse store file {path}", error.message]

abbrev FileReader (m : Type → Type) := String → m (Except Files.FileError ByteArray)

namespace Profile

def checked (profile : Profile) : Except LoadError Profile :=
  match profile.check with
  | .ok () => .ok profile
  | .error fault => .error (.invalidProfile fault)

/-- A relative store path counts from the profile's directory. -/
def rebaseStore (profile : Profile) (path : String) : Profile :=
  match Files.parent? path with
  | none => profile
  | some directory =>
    if Files.isRelative profile.store ∧ directory ≠ "" then
      { profile with store := Files.join directory profile.store }
    else profile

def sourceOfBytes (bytes : ByteArray) : Json.Source := Text.decode bytes.toList

def ofText (text : String) : Except LoadError Profile :=
  match Reader.read (Json.sourceOf text) with
  | .ok profile => profile.checked
  | .error error => .error (.profileText error)

def ofStream (source : Json.Source) : Except LoadError Profile :=
  match Reader.read source with
  | .ok profile => profile.checked
  | .error error => .error (.profileStream error)

variable {m : Type → Type} [Monad m]

/-- Opens a file and reads a profile from it as it comes. -/
def loadStreaming (reader : FileReader m) (path : String) : m (Except LoadError Profile) := do
  match ← reader path with
  | .error .isADirectory => return .error (.unreadableStream .isADirectory)
  | .error error => return .error (.unopenedProfile path error)
  | .ok bytes => return (ofStream (sourceOfBytes bytes)).map (·.rebaseStore path)

def load (reader : FileReader m) (path : String) : m (Except LoadError Profile) := do
  match ← reader path with
  | .error error => return .error (.unreadProfile path error)
  | .ok bytes =>
    match Reader.read (sourceOfBytes bytes) with
    | .error error => return .error (.profileFile path error)
    | .ok profile => return profile.checked.map (·.rebaseStore path)

end Profile

namespace Store

variable {m : Type → Type} [Monad m]

def load (reader : FileReader m) (path : String) : m (Except LoadError Store) := do
  match ← reader path with
  | .error error => return .error (.unreadStore path error)
  | .ok bytes =>
    match String.fromUTF8? bytes with
    | none => return .error (.unreadStore path .notText)
    | some text =>
      match Store.ofIni text with
      | .ok store => return .ok store
      | .error error => return .error (.malformedStore path error)

end Store

end Replay
