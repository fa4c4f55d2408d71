import Replay.Dict
import Replay.Text.Blank
import Replay.Text.Lowercase

/-!
The settings store: sections of text values under keys. Keys are told apart by their normal form, and
the section `DEFAULT` supplies values that another section lacks.
-/

namespace Replay

def normalKey (key : String) : String :=
  String.ofList (Text.lowercase (Text.trim key.toList))

theorem normalKey_eq_empty_iff (key : String) : normalKey key = "" ↔ Text.trim key.toList = [] := by
  rw [normalKey, String.ofList_eq_empty_iff, Text.lowercase_eq_nil_iff]

structure Store where
  sections : Dict (Dict String)
  deriving DecidableEq, Repr

namespace Store

def empty : Store := ⟨∅⟩

instance : EmptyCollection Store := ⟨empty⟩

instance : Inhabited Store := ⟨empty⟩

def defaultSection : String := "DEFAULT"

def own? (store : Store) (name key : String) : Option String :=
  (store.sections.get? name).bind (·.get? key)

/-- The value of a key in a section that exists, or else in `DEFAULT`. -/
def get? (store : Store) (name key : String) : Option String :=
  (store.sections.get? name).bind fun entries =>
    let key := normalKey key
    (entries.get? key).or (store.own? defaultSection key)

def insert (store : Store) (name key value : String) : Store :=
  let entries := (store.sections.get? name).getD ∅
  ⟨store.sections.insert name (entries.insert (normalKey key) value)⟩

def hasSection (store : Store) (name : String) : Bool := store.sections.contains name

def sectionNames (store : Store) : List String := store.sections.keys

def keys (store : Store) (name : String) : List String :=
  ((store.sections.get? name).map Dict.keys).getD []

end Store

end Replay
