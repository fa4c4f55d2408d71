import Replay.Proofs.Store.Reading

namespace Replay.Store

theorem hasSection_eq_false_iff {store : Store} {name : String} :
    store.hasSection name = false ↔ store.sections.get? name = none := by
  rw [hasSection, Dict.contains, Option.isSome_eq_false_iff, Option.isNone_iff_eq_none]

theorem own?_of_not_hasSection {store : Store} {name : String} (absent : store.hasSection name = false)
    (key : String) : store.own? name key = none := by
  rw [own?, hasSection_eq_false_iff.mp absent]
  rfl

theorem eq_of_own?_eq {left right : Store}
    (sections : ∀ name, left.hasSection name = right.hasSection name)
    (own : ∀ name key, left.own? name key = right.own? name key) : left = right := by
  have same : left.sections = right.sections := by
    ext1 name
    have values := own name
    simp only [own?] at values
    cases first : left.sections.get? name with
    | none =>
      have absent := sections name
      rw [hasSection_eq_false_iff.mpr first] at absent
      exact (hasSection_eq_false_iff.mp absent.symm).symm
    | some entries =>
      cases second : right.sections.get? name with
      | none =>
        have absent := sections name
        rw [hasSection_eq_false_iff.mpr second, hasSection_eq_false_iff, first] at absent
        cases absent
      | some others =>
        rw [first, second] at values
        exact congrArg some (Dict.ext values)
  cases left
  cases right
  exact congrArg Store.mk same

theorem get?_of_section {store : Store} {name : String} {entries : Dict String}
    (here : store.sections.get? name = some entries) (key : String) :
    store.get? name key =
      (entries.get? (normalKey key)).or (store.own? defaultSection (normalKey key)) := by
  rw [get?, here]
  rfl

theorem get?_eq_own? (store : Store) (name key : String) :
    store.get? name key =
      if store.hasSection name then
        (store.own? name (normalKey key)).or (store.own? defaultSection (normalKey key))
      else none := by
  cases here : store.sections.get? name with
  | none =>
    rw [get?, here, hasSection_eq_false_iff.mpr here, Option.bind_none]
    exact (if_neg Bool.false_ne_true).symm
  | some entries =>
    have present : store.hasSection name = true := by
      rw [hasSection, Dict.contains, here, Option.isSome_some]
    have own : store.own? name (normalKey key) = entries.get? (normalKey key) := by
      rw [own?, here, Option.bind_some]
    rw [if_pos present, own, get?_of_section here]

theorem own?_insert (store : Store) (name key value other otherKey : String) :
    (store.insert name key value).own? other otherKey =
      if other = name ∧ otherKey = normalKey key then some value else store.own? other otherKey :=
  store.own?_put name (normalKey key) value other otherKey

theorem hasSection_insert (store : Store) (name key value other : String) :
    (store.insert name key value).hasSection other =
      (decide (other = name) || store.hasSection other) := by
  simp only [hasSection, Dict.contains, insert, Dict.get?_insert]
  by_cases same : other = name <;> simp [same]

section Lookups

variable (store : Store) (name key value : String)

theorem get?_default (otherKey : String) :
    store.get? defaultSection otherKey = store.own? defaultSection (normalKey otherKey) := by
  rw [get?_eq_own?, Option.or_self]
  by_cases existed : store.hasSection defaultSection = true
  · rw [if_pos existed]
  · rw [if_neg existed, own?_of_not_hasSection (Bool.eq_false_iff.mpr existed)]

/-- The lookups in the section itself. If it is new, its other keys begin to show the values of
`DEFAULT`. -/
theorem get?_insert_same (otherKey : String) :
    (store.insert name key value).get? name otherKey =
      if normalKey otherKey = normalKey key then some value
      else if store.hasSection name = false then store.get? defaultSection otherKey
      else store.get? name otherKey := by
  have present : (store.insert name key value).hasSection name = true := by
    rw [hasSection_insert, decide_eq_true rfl, Bool.true_or]
  rw [get?_eq_own?, if_pos present, own?_insert, own?_insert, get?_default, get?_eq_own?]
  by_cases sameKey : normalKey otherKey = normalKey key
  · simp only [sameKey, and_self, if_true, Option.some_or]
  · simp only [sameKey, and_false, if_false]
    cases existed : store.hasSection name with
    | false => simp only [own?_of_not_hasSection existed, Option.none_or, if_true]
    | true => rfl

/-- The lookups in another section. A value of `DEFAULT` shows there unless the section has its own. -/
theorem get?_insert_other {other : String} (differ : other ≠ name) (otherKey : String) :
    (store.insert name key value).get? other otherKey =
      if name = defaultSection ∧ store.hasSection other = true ∧
          store.own? other (normalKey otherKey) = none ∧ normalKey otherKey = normalKey key then
        some value
      else store.get? other otherKey := by
  have present : (store.insert name key value).hasSection other = store.hasSection other := by
    rw [hasSection_insert, decide_eq_false differ, Bool.false_or]
  have own : (store.insert name key value).own? other (normalKey otherKey) =
      store.own? other (normalKey otherKey) := by
    rw [own?_insert, if_neg fun both => differ both.1]
  rw [get?_eq_own?, get?_eq_own?, present, own]
  cases existed : store.hasSection other with
  | false => simp only [Bool.false_eq_true, false_and, and_false, if_false]
  | true =>
    cases held : store.own? other (normalKey otherKey) with
    | some kept => simp only [Option.some_or, reduceCtorEq, false_and, and_false, if_false]
    | none =>
      -- the section has nothing to show but the value of `DEFAULT`, old or new
      simp only [Option.none_or, if_true, own?_insert, @eq_comm _ defaultSection, true_and]

theorem insert_comm {other otherKey : String} (otherValue : String)
    (apart : (name, normalKey key) ≠ (other, normalKey otherKey)) :
    (store.insert name key value).insert other otherKey otherValue =
      (store.insert other otherKey otherValue).insert name key value := by
  refine eq_of_own?_eq (fun third => ?_) fun third thirdKey => ?_
  · simp only [hasSection_insert, Bool.or_left_comm]
  · simp only [own?_insert]
    by_cases first : third = name ∧ thirdKey = normalKey key
    · have notSecond : ¬(third = other ∧ thirdKey = normalKey otherKey) :=
        fun second => apart (Prod.ext (first.1.symm.trans second.1) (first.2.symm.trans second.2))
      rw [if_pos first, if_neg notSecond, if_pos first]
    · rw [if_neg first, if_neg first]

theorem insert_twice {otherKey : String} (otherValue : String)
    (sameKey : normalKey key = normalKey otherKey) :
    (store.insert name key value).insert name otherKey otherValue =
      store.insert name otherKey otherValue := by
  refine eq_of_own?_eq (fun third => ?_) fun third thirdKey => ?_
  · simp only [hasSection_insert, Bool.or_self_left]
  · simp only [own?_insert, sameKey]
    split <;> rfl

end Lookups

/-- The lookups after a value is set, in every section and under every spelling of a key. Values of
different sections or keys can be set in either order, and of two values of one key the last is kept. -/
theorem lookups_after_insert (store : Store) (name key value : String) :
    (∀ other otherKey, (store.insert name key value).get? other otherKey =
      if other = name ∧ normalKey otherKey = normalKey key then some value
      else if other = name ∧ store.hasSection name = false then
        if name = defaultSection then none else store.get? defaultSection otherKey
      else if name = defaultSection ∧ store.hasSection other = true ∧
          store.own? other (normalKey otherKey) = none ∧ normalKey otherKey = normalKey key then
        some value
      else store.get? other otherKey) ∧
    (∀ other otherKey otherValue, (name, normalKey key) ≠ (other, normalKey otherKey) →
      (store.insert name key value).insert other otherKey otherValue =
        (store.insert other otherKey otherValue).insert name key value) ∧
    ∀ otherKey otherValue, normalKey key = normalKey otherKey →
      (store.insert name key value).insert name otherKey otherValue =
        store.insert name otherKey otherValue := by
  refine ⟨fun other otherKey => ?_, fun _ _ => store.insert_comm name key value,
    fun _ => store.insert_twice name key value⟩
  by_cases here : other = name
  · subst here
    rw [get?_insert_same]
    by_cases sameKey : normalKey otherKey = normalKey key
    · rw [if_pos sameKey, if_pos ⟨rfl, sameKey⟩]
    cases fresh : store.hasSection other with
    | true => simp only [sameKey, and_false, Bool.true_eq_false, if_false]
    | false =>
      simp only [sameKey, and_false, if_false, and_self, if_true]
      split
      · next isDefault => rw [get?_default, ← isDefault, own?_of_not_hasSection fresh]
      · rfl
  · rw [get?_insert_other store name key value here]
    simp only [here, false_and, if_false]

/-- A value of `DEFAULT` that shows in a section which has others. -/
theorem lookups_after_insert_defaultPort :
    let store := (∅ : Store).insert "Broker" "host" "localhost"
    let fallback := store.insert "DEFAULT" " Port" "80"
    fallback.get? "Broker" "PORT" = some "80" ∧
      fallback.insert "Broker" "port" "81" =
        (store.insert "Broker" "port" "81").insert "DEFAULT" " Port" "80" ∧
      fallback.insert "DEFAULT" "PORT" "90" = store.insert "DEFAULT" "PORT" "90" := by
  intro store fallback
  obtain ⟨lookups, commute, last⟩ := lookups_after_insert store "DEFAULT" " Port" "80"
  refine ⟨?_, commute "Broker" "port" "81" (by decide +kernel), last "PORT" "90" (by decide +kernel)⟩
  rw [lookups]
  decide +kernel

end Replay.Store
