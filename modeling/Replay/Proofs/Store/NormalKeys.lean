import Replay.Proofs.Store.Insertion
import Replay.Proofs.Text.ByteOrder
import Replay.Proofs.Text.Lowercase

namespace Replay

open Text

theorem normalKey_normalKey (key : String) : normalKey (normalKey key) = normalKey key := by
  have lowered : (normalKey key).toList = lowercase (trim key.toList) := String.toList_ofList
  calc normalKey (normalKey key)
    _ = String.ofList (lowercase (trim (lowercase (trim key.toList)))) := by rw [normalKey, lowered]
    _ = String.ofList (lowercase (lowercase (trim key.toList))) := by rw [← lowercase_trim, trim_trim]
    _ = normalKey key := by rw [lowercase_lowercase, normalKey]

theorem normalKey_eq_of_sameInside {left right : String}
    (same : SameInside (left.toList.map Char.toLower) (right.toList.map Char.toLower)) :
    normalKey left = normalKey right := by
  have small (key : List Char) : lowercase (trim key) = lowercase (trim (key.map Char.toLower)) := by
    rw [lowercase_trim, lowercase_trim, lowercase_toLower]
  rw [normalKey, normalKey, small left.toList, small right.toList, (sameInside_iff _ _).mp same]

namespace Store

theorem mem_keys_iff (store : Store) (name key : String) :
    key ∈ store.keys name ↔ ∃ value, store.own? name key = some value := by
  rw [keys, own?]
  cases store.sections.get? name with
  | none => simp
  | some entries => simp [Dict.keys, Dict.get?_eq_some_iff]

theorem pairwise_keys (store : Store) (name : String) :
    (store.keys name).Pairwise fun first second => utf8 first < utf8 second := by
  rw [keys]
  cases store.sections.get? name with
  | none => exact .nil
  | some entries => exact List.pairwise_map.mpr (entries.ordered.imp utf8_lt)

def NormalKeys (store : Store) : Prop := ∀ name, ∀ key ∈ store.keys name, normalKey key = key

theorem normalKeys_empty : NormalKeys ∅ := fun _ => List.forall_mem_nil _

theorem NormalKeys.insert {store : Store} (normal : store.NormalKeys) (name key value : String) :
    (store.insert name key value).NormalKeys := by
  intro other otherKey member
  obtain ⟨found, own⟩ := (mem_keys_iff _ _ _).mp member
  rw [own?_insert] at own
  by_cases placed : other = name ∧ otherKey = normalKey key
  · rw [placed.2, normalKey_normalKey]
  · rw [if_neg placed] at own
    exact normal other otherKey ((mem_keys_iff _ _ _).mpr ⟨found, own⟩)

theorem normalKeys_of_ofIni {text : String} {store : Store} (read : ofIni text = .ok store) :
    store.NormalKeys := by
  have readAs := Ini.readAs_readLines (lines text.toList) 1 Ini.sound_nil Ini.reads_start
  rw [ofIni] at read
  generalize Ini.Cursor.start.readLines 1 (lines text.toList) = outcome at read readAs
  cases readAs with
  | error => cases read
  | ok _ reads =>
    obtain rfl := Except.ok.inj read
    intro name key member
    obtain ⟨value, own⟩ := (mem_keys_iff _ _ _).mp member
    obtain ⟨entry, -, place, -⟩ := (reads.holds name key value).mp own
    obtain rfl : entry.key = key := (Prod.ext_iff.mp place).2
    exact normalKey_normalKey _

/-- Stores that are read from INI text or empty at first, and have had values set since. -/
inductive Reachable : Store → Prop
  | empty : Reachable ∅
  | ofIni {text : String} {store : Store} : Store.ofIni text = .ok store → Reachable store
  | insert {store : Store} (name key value : String) :
      Reachable store → Reachable (store.insert name key value)

theorem Reachable.normalKeys {store : Store} (reachable : Reachable store) : store.NormalKeys := by
  induction reachable with
  | empty => exact normalKeys_empty
  | ofIni read => exact normalKeys_of_ofIni read
  | insert name key value _ ih => exact ih.insert name key value

/-- The lookup gives a value that the section holds, whatever the other sections hold. -/
def AnswersItself (store : Store) (name key : String) : Prop :=
  ∃ held value, store.own? name held = some value ∧
    ∀ other : Store, other.sections.get? name = store.sections.get? name →
      other.get? name key = some value

/-- A section answers for the spellings of its keys. For others the rest of the store decides, as when
it is left out. -/
theorem answersItself_iff (store : Store) (name key : String) :
    store.AnswersItself name key ↔ normalKey key ∈ store.keys name := by
  rw [mem_keys_iff]
  constructor
  · rintro ⟨held, value, own, answers⟩
    obtain ⟨entries, here, -⟩ := Option.bind_eq_some_iff.mp own
    let alone : Store := ⟨Dict.insert ∅ name entries⟩
    have same : alone.sections.get? name = store.sections.get? name := by
      rw [here, Dict.get?_insert, if_pos rfl]
    have answer := answers alone same
    rw [own?, here, Option.bind_some, ← Option.isSome_iff_exists]
    by_contra missing
    rw [Option.not_isSome_iff_eq_none] at missing
    have silent : alone.own? defaultSection (normalKey key) = none := by
      by_cases isDefault : defaultSection = name
      · rw [own?, isDefault, same, here, Option.bind_some, missing]
      · rw [own?, Dict.get?_insert, if_neg isDefault]
        rfl
    rw [get?_of_section (same.trans here), missing, silent] at answer
    cases answer
  · rintro ⟨value, own⟩
    refine ⟨normalKey key, value, own, fun other same => ?_⟩
    obtain ⟨entries, here, found⟩ := Option.bind_eq_some_iff.mp own
    rw [get?_of_section (same.trans here), found, Option.some_or]

/-- In a store that can be reached every key is in its normal form. The keys of a section stand in the
order of their bytes, each finds the value that the section holds under it, and the section answers for
just the spellings of its keys. In any store, spellings that differ in the case of ASCII letters and in
white space at the ends find the same. -/
theorem keys_in_normal_form :
    (∀ store : Store, Reachable store → ∀ name,
      (∀ key ∈ store.keys name, normalKey key = key ∧
        ∃ value, store.own? name key = some value ∧ store.get? name key = some value) ∧
      ((store.keys name).Pairwise fun first second => utf8 first < utf8 second) ∧
      ∀ spelling, store.AnswersItself name spelling ↔ normalKey spelling ∈ store.keys name) ∧
    ∀ left right : String,
      SameInside (left.toList.map Char.toLower) (right.toList.map Char.toLower) →
        ∀ (store : Store) (name : String), store.get? name left = store.get? name right := by
  refine ⟨fun store reachable name => ⟨fun key member => ?_, store.pairwise_keys name,
    store.answersItself_iff name⟩, fun left right same store name => ?_⟩
  · have normal := reachable.normalKeys name key member
    obtain ⟨value, own⟩ := (mem_keys_iff _ _ _).mp member
    obtain ⟨entries, here, found⟩ := Option.bind_eq_some_iff.mp own
    refine ⟨normal, value, own, ?_⟩
    rw [get?_of_section here, normal, found, Option.some_or]
  · rw [get?, get?, normalKey_eq_of_sameInside same]

/-- A name that ends in a sigma, one whose first letter becomes two characters, and a key set later. -/
theorem keys_in_normal_form_of_names :
    ∃ store, ofIni "[Ports]\nΟΔΥΣΣΕΥΣ = 1\nİzmir: 2" = .ok store ∧
      let built := store.insert "Ports" " Kobe" "3"
      (∃ value, built.own? "Ports" "οδυσσευς" = some value ∧
        built.get? "Ports" "οδυσσευς" = some value) ∧
      built.AnswersItself "Ports" "İZMIR " ∧
      built.get? "Ports" "kOBE" = built.get? "Ports" "\tKobe " := by
  obtain ⟨reached, spellings⟩ := keys_in_normal_form
  have keys : (ofIni "[Ports]\nΟΔΥΣΣΕΥΣ = 1\nİzmir: 2").map
      (fun store => (store.insert "Ports" " Kobe" "3").keys "Ports") =
        .ok ["i\u0307zmir", "kobe", "οδυσσευς"] := by
    decide +kernel
  cases read : ofIni "[Ports]\nΟΔΥΣΣΕΥΣ = 1\nİzmir: 2" with
  | error error =>
    rw [read] at keys
    cases keys
  | ok store =>
    rw [read] at keys
    have listed := Except.ok.inj keys
    have built := (Reachable.ofIni read).insert "Ports" " Kobe" "3"
    obtain ⟨normal, -, answers⟩ := reached _ built "Ports"
    refine ⟨store, rfl, (normal "οδυσσευς" (by simp [listed])).2, (answers "İZMIR ").mpr ?_,
      spellings _ _ ?_ _ _⟩
    · have same : normalKey "İZMIR " = "i\u0307zmir" := by decide +kernel
      simp [listed, same]
    · exact (sameInside_iff _ _).mpr (by decide +kernel)

end Store

end Replay
