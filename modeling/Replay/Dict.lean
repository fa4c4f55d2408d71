namespace Replay

namespace Entries

variable {α : Type}

def lookup (key : String) : List (String × α) → Option α
  | [] => none
  | entry :: rest => if key = entry.1 then some entry.2 else lookup key rest

/-- Puts the value at the place of its key in an ordered list, over the old value if there is one. -/
def place (key : String) (value : α) : List (String × α) → List (String × α)
  | [] => [(key, value)]
  | entry :: rest =>
    if key < entry.1 then (key, value) :: entry :: rest
    else if key = entry.1 then (key, value) :: rest
    else entry :: place key value rest

def Ordered (entries : List (String × α)) : Prop := entries.Pairwise (·.1 < ·.1)

instance (entries : List (String × α)) : Decidable (Ordered entries) :=
  inferInstanceAs (Decidable (entries.Pairwise (·.1 < ·.1)))

theorem lookup_place (key other : String) (value : α) (entries : List (String × α)) :
    lookup other (place key value entries) = if other = key then some value else lookup other entries := by
  induction entries with
  | nil => rfl
  | cons entry rest ih =>
    simp only [place]
    split
    · rfl
    · split
      · next same => subst same; by_cases h : other = entry.1 <;> simp [lookup, h]
      · next differ =>
        by_cases h : other = entry.1
        · subst h
          simp [lookup, Ne.symm differ]
        · simp [lookup, h, ih]

theorem mem_place {key : String} {value : α} {entries : List (String × α)} {entry : String × α}
    (member : entry ∈ place key value entries) : entry = (key, value) ∨ entry ∈ entries := by
  induction entries with
  | nil => simpa [place] using member
  | cons head rest ih =>
    simp only [place] at member
    split at member
    · simpa using member
    · split at member
      · rcases List.mem_cons.mp member with h | h
        · exact .inl h
        · exact .inr (List.mem_cons_of_mem _ h)
      · rcases List.mem_cons.mp member with h | h
        · exact .inr (h ▸ List.mem_cons_self)
        · exact (ih h).imp id (List.mem_cons_of_mem _)

theorem ordered_place (key : String) (value : α) {entries : List (String × α)}
    (ordered : Ordered entries) : Ordered (place key value entries) := by
  induction entries with
  | nil => simp [place, Ordered]
  | cons entry rest ih =>
    obtain ⟨above, ordered⟩ := List.pairwise_cons.mp ordered
    simp only [place]
    split
    · next less =>
      refine List.pairwise_cons.mpr ⟨fun other member => ?_, List.pairwise_cons.mpr ⟨above, ordered⟩⟩
      rcases List.mem_cons.mp member with rfl | member
      · exact less
      · exact String.lt_trans less (above other member)
    · next notLess =>
      split
      · next same => exact List.pairwise_cons.mpr ⟨fun other member => same ▸ above other member, ordered⟩
      · next differ =>
        refine List.pairwise_cons.mpr ⟨fun other member => ?_, ih ordered⟩
        rcases mem_place member with rfl | member
        · exact String.not_le.mp fun le => differ (String.le_antisymm le (String.not_lt.mp notLess))
        · exact above other member

theorem lookup_eq_none_of_lt {key : String} {entries : List (String × α)}
    (below : ∀ entry ∈ entries, key < entry.1) : lookup key entries = none := by
  induction entries with
  | nil => rfl
  | cons entry rest ih =>
    have differ : key ≠ entry.1 := fun same => String.lt_irrefl key (same ▸ below entry List.mem_cons_self)
    simp [lookup, differ, ih fun other member => below other (List.mem_cons_of_mem _ member)]

theorem eq_of_lookup_eq {left right : List (String × α)} (hl : Ordered left) (hr : Ordered right)
    (same : ∀ key, lookup key left = lookup key right) : left = right := by
  induction left generalizing right with
  | nil =>
    cases right with
    | nil => rfl
    | cons entry rest => simpa [lookup] using same entry.1
  | cons entry rest ih =>
    obtain ⟨key, value⟩ := entry
    obtain ⟨hle, tailLeft⟩ := List.pairwise_cons.mp hl
    cases right with
    | nil => simpa [lookup] using same key
    | cons entry' rest' =>
      obtain ⟨key', value'⟩ := entry'
      obtain ⟨hre, tailRight⟩ := List.pairwise_cons.mp hr
      have keys : key = key' := by
        refine Decidable.byContradiction fun differ => ?_
        rcases String.le_total key key' with h | h
        · have less : key < key' := String.not_le.mp fun le => differ (String.le_antisymm h le)
          have gone : lookup key ((key', value') :: rest') = none :=
            lookup_eq_none_of_lt fun other member => by
              rcases List.mem_cons.mp member with rfl | member
              · exact less
              · exact String.lt_trans less (hre other member)
          have found := same key
          rw [gone] at found
          simp [lookup] at found
        · have less : key' < key := String.not_le.mp fun le => differ (String.le_antisymm le h)
          have gone : lookup key' ((key, value) :: rest) = none :=
            lookup_eq_none_of_lt fun other member => by
              rcases List.mem_cons.mp member with rfl | member
              · exact less
              · exact String.lt_trans less (hle other member)
          have found := same key'
          rw [gone] at found
          simp [lookup] at found
      subst keys
      have values : value = value' := by simpa [lookup] using same key
      subst values
      congr 1
      refine ih tailLeft tailRight fun other => ?_
      by_cases h : other = key
      · subst h
        rw [lookup_eq_none_of_lt hle, lookup_eq_none_of_lt hre]
      · simpa [lookup, h] using same other

theorem Ordered.nodup_keys {entries : List (String × α)} (ordered : Ordered entries) :
    (entries.map (·.1)).Nodup := by
  refine List.pairwise_map.mpr (List.Pairwise.imp ?_ ordered)
  intro left right less same
  exact String.lt_irrefl left.1 (same ▸ less)

theorem lookup_eq_none_of_not_mem {key : String} {entries : List (String × α)}
    (absent : key ∉ entries.map (·.1)) : lookup key entries = none := by
  induction entries with
  | nil => rfl
  | cons entry rest ih =>
    rw [List.map_cons, List.mem_cons, not_or] at absent
    rw [lookup, if_neg absent.1, ih absent.2]

/-- Where no key occurs twice, the order of the entries does not matter. -/
theorem lookup_eq_some_iff {entries : List (String × α)} (nodup : (entries.map (·.1)).Nodup)
    (key : String) (value : α) : lookup key entries = some value ↔ (key, value) ∈ entries := by
  induction entries with
  | nil => simp [lookup]
  | cons entry rest ih =>
    obtain ⟨first, found⟩ := entry
    obtain ⟨fresh, nodup⟩ := List.nodup_cons.mp nodup
    by_cases same : key = first
    · subst same
      have elsewhere : (key, value) ∉ rest := fun member => fresh (List.mem_map.mpr ⟨_, member, rfl⟩)
      simp [lookup, elsewhere, eq_comm]
    · simp [lookup, same, ih nodup]

end Entries

structure Dict (α : Type) where
  entries : List (String × α)
  ordered : Entries.Ordered entries
  deriving DecidableEq, Repr

namespace Dict

variable {α : Type}

def empty : Dict α := ⟨[], List.Pairwise.nil⟩

instance : EmptyCollection (Dict α) := ⟨empty⟩

instance : Inhabited (Dict α) := ⟨empty⟩

def get? (dict : Dict α) (key : String) : Option α := Entries.lookup key dict.entries

def contains (dict : Dict α) (key : String) : Bool := (dict.get? key).isSome

def insert (dict : Dict α) (key : String) (value : α) : Dict α :=
  ⟨Entries.place key value dict.entries, Entries.ordered_place key value dict.ordered⟩

def keys (dict : Dict α) : List String := dict.entries.map (·.1)

def ofList (entries : List (String × α)) : Dict α :=
  entries.foldl (fun dict entry => dict.insert entry.1 entry.2) ∅

@[simp] theorem get?_empty (key : String) : (∅ : Dict α).get? key = none := rfl

theorem get?_insert (dict : Dict α) (key other : String) (value : α) :
    (dict.insert key value).get? other = if other = key then some value else dict.get? other :=
  Entries.lookup_place key other value dict.entries

@[ext] theorem ext {left right : Dict α} (same : ∀ key, left.get? key = right.get? key) :
    left = right := by
  obtain ⟨entries, ordered⟩ := left
  obtain ⟨entries', ordered'⟩ := right
  obtain rfl := Entries.eq_of_lookup_eq ordered ordered' same
  rfl

theorem get?_eq_some_iff (dict : Dict α) (key : String) (value : α) :
    dict.get? key = some value ↔ (key, value) ∈ dict.entries :=
  Entries.lookup_eq_some_iff dict.ordered.nodup_keys key value

theorem get?_insert_fresh {β : Type} {dict : Dict α} {key : String} {others : List (String × β)}
    (absent : key ∉ others.map (·.1)) (fresh : ∀ other ∈ others, dict.get? other.1 = none) (value : α) :
    ∀ other ∈ others, (dict.insert key value).get? other.1 = none := by
  intro other member
  have differ : other.1 ≠ key := fun same => absent (List.mem_map.mpr ⟨other, member, same⟩)
  rw [get?_insert, if_neg differ, fresh other member]

theorem insert_insert (dict : Dict α) (key : String) (old new : α) :
    (dict.insert key old).insert key new = dict.insert key new := by
  ext other
  by_cases same : other = key <;> simp [get?_insert, same]

theorem get?_foldl_insert {entries : List (String × α)} (nodup : (entries.map (·.1)).Nodup)
    (dict : Dict α) (key : String) :
    (entries.foldl (fun dict entry => dict.insert entry.1 entry.2) dict).get? key =
      (Entries.lookup key entries).or (dict.get? key) := by
  induction entries generalizing dict with
  | nil => rfl
  | cons entry rest ih =>
    obtain ⟨fresh, nodup⟩ := List.nodup_cons.mp nodup
    rw [List.foldl_cons, ih nodup, get?_insert]
    by_cases same : key = entry.1
    · have gone : Entries.lookup key rest = none := Entries.lookup_eq_none_of_not_mem (same ▸ fresh)
      simp [Entries.lookup, same ▸ gone, same]
    · simp [Entries.lookup, same]

theorem ofList_eq_of_perm {entries : List (String × α)} {dict : Dict α}
    (same : entries.Perm dict.entries) : ofList entries = dict := by
  have nodup : (entries.map (·.1)).Nodup :=
    (same.map _).nodup_iff.mpr dict.ordered.nodup_keys
  ext key value
  rw [ofList, get?_foldl_insert nodup, get?_empty, Option.or_none, Entries.lookup_eq_some_iff nodup, same.mem_iff, get?_eq_some_iff]

end Dict

end Replay
