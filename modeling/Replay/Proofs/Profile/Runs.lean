import Replay.Profile.Validation
import Replay.Proofs.Text.Trim
import Replay.Store

namespace Replay

theorem Store.get?_agree_iff (left right : String) :
    (∀ (store : Store) (name : String), store.get? name left = store.get? name right) ↔
      normalKey left = normalKey right := by
  constructor
  · intro agree
    have found := agree ⟨Dict.insert ∅ "" (Dict.insert ∅ (normalKey left) "")⟩ ""
    refine Decidable.byContradiction fun differ => ?_
    simp [Store.get?, Store.own?, Dict.get?_insert, Store.defaultSection, Ne.symm differ] at found
  · intro same store name
    simp only [Store.get?, same]

namespace Text

def DifferAtEnds (left right : List Char) : Prop := left ≠ right ∧ SameInside left right

end Text

namespace Profile

theorem normalKey_eq_iff (left right : String) :
    normalKey left = normalKey right ↔
      Text.SameInside (Text.lowercase left.toList) (Text.lowercase right.toList) := by
  rw [normalKey, normalKey, String.ofList_inj, Text.lowercase_trim, Text.lowercase_trim,
    Text.sameInside_iff]

theorem checkRuns_eq_ok_iff (seen : List String) (index : Nat) (runs : List String) :
    checkRuns seen index runs = .ok () ↔
      (∀ run ∈ runs, Text.trim run.toList ≠ []) ∧ (∀ run ∈ runs, lowercaseKey run ∉ seen) ∧
        (runs.map lowercaseKey).Nodup := by
  induction runs generalizing seen index with
  | nil => simp [checkRuns]
  | cons run rest ih =>
    simp only [checkRuns]
    split
    · next blank => simp [blank]
    · next notBlank =>
      split
      · next repeated => simp [repeated]
      · next fresh =>
        rw [ih]
        simp only [List.mem_cons, forall_eq_or_imp, not_or, List.map_cons, List.nodup_cons,
          List.mem_map, not_exists, not_and]
        grind

theorem checkRuns_of_check {profile : Profile} (accepted : profile.check = .ok ()) :
    checkRuns [] 0 profile.runs = .ok () := by
  rw [check] at accepted
  split at accepted
  · exact nomatch accepted
  · dsimp only at accepted
    split at accepted
    · split at accepted
      · exact nomatch accepted
      · exact accepted
    · exact accepted

theorem lowercase_ne_of_check {profile : Profile} (accepted : profile.check = .ok ()) {first second : Nat}
    (hf : first < profile.runs.length) (hs : second < profile.runs.length) (differ : first ≠ second) :
    Text.lowercase profile.runs[first].toList ≠ Text.lowercase profile.runs[second].toList := by
  have distinct := ((checkRuns_eq_ok_iff ..).mp (checkRuns_of_check accepted)).2.2
  have apart := List.pairwise_iff_getElem.mp (List.pairwise_map.mp distinct)
  intro same
  have oneKey : lowercaseKey profile.runs[first] = lowercaseKey profile.runs[second] := by
    rw [lowercaseKey, lowercaseKey, same]
  rcases Nat.lt_or_gt_of_ne differ with before | behind
  · exact apart first second hf hs before oneKey
  · exact apart second first hs hf behind oneKey.symm

/-- Two runs of a checked profile name one entry, whatever the store, just if their lower-case forms
differ by nothing but white space at their ends. Runs without such white space name two entries. -/
theorem normalKey_runs_of_check {profile : Profile} (accepted : profile.check = .ok ())
    {first second : Nat} (hf : first < profile.runs.length) (hs : second < profile.runs.length)
    (differ : first ≠ second) :
    (normalKey profile.runs[first] = normalKey profile.runs[second] ↔
      Text.DifferAtEnds (Text.lowercase profile.runs[first].toList)
        (Text.lowercase profile.runs[second].toList)) ∧
    ((∀ (store : Store) (name : String),
        store.get? name profile.runs[first] = store.get? name profile.runs[second]) ↔
      Text.DifferAtEnds (Text.lowercase profile.runs[first].toList)
        (Text.lowercase profile.runs[second].toList)) ∧
    (Text.IsTrimmed profile.runs[first].toList → Text.IsTrimmed profile.runs[second].toList →
      normalKey profile.runs[first] ≠ normalKey profile.runs[second]) := by
  have apart := lowercase_ne_of_check accepted hf hs differ
  have oneKey : normalKey profile.runs[first] = normalKey profile.runs[second] ↔
      Text.DifferAtEnds (Text.lowercase profile.runs[first].toList)
        (Text.lowercase profile.runs[second].toList) := by
    rw [normalKey_eq_iff, Text.DifferAtEnds, and_iff_right apart]
  refine ⟨oneKey, (Store.get?_agree_iff _ _).trans oneKey, fun trimmedFirst trimmedSecond same => ?_⟩
  have lowered := String.ofList_inj.mp same
  rw [(Text.trim_eq_self_iff _).mpr trimmedFirst, (Text.trim_eq_self_iff _).mpr trimmedSecond] at lowered
  exact apart lowered

theorem normalKey_runs_of_check_login :
    (∀ (store : Store) (name : String), store.get? name "Login" = store.get? name " login") ∧
      normalKey "Login" ≠ normalKey "logout" := by
  have accepted : ({ store := "trading.ini", runs := ["Login", " login", "logout"] } : Profile).check =
    .ok () := by rfl
  have oneEntry := (normalKey_runs_of_check accepted (by decide : 0 < 3) (by decide : 1 < 3)
    (by decide)).2.1
  have twoEntries := (normalKey_runs_of_check accepted (by decide : 0 < 3) (by decide : 2 < 3)
    (by decide)).2.2
  refine ⟨oneEntry.mpr ⟨by decide +kernel, ?_⟩, twoEntries (by decide +kernel) (by decide +kernel)⟩
  exact (Text.sameInside_iff _ _).mpr (by decide +kernel)

/-- A checked profile may list one entry twice. -/
theorem padded_run_listed_twice :
    ¬∀ profile : Profile, profile.check = .ok () → (profile.runs.map normalKey).Nodup := by
  intro distinct
  have accepted : ({ store := "s.ini", runs := [" a", "a"] } : Profile).check = .ok () := by rfl
  exact absurd (distinct _ accepted) (by decide +kernel)

end Profile

end Replay
