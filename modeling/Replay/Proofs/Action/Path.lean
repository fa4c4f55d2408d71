import Mathlib.Data.List.Induction
import Replay.Proofs.Number.Numerals
import Replay.Proofs.Text.Lines
import Replay.Proofs.Traversal

namespace Replay

open Numeral

namespace Path

variable {path other : Path}

theorem child_induction {motive : Path → Prop} (root : motive root)
    (child : ∀ path index, motive path → motive (path.child index)) (path : Path) : motive path := by
  obtain ⟨indices⟩ := path
  induction indices using List.reverseRecOn with
  | nil => exact root
  | append_singleton front index ih => exact child ⟨front⟩ index ih

theorem indices_ne_nil (nested : path ≠ root) : path.indices ≠ [] :=
  fun empty => nested (congrArg mk empty)

theorem child_ne_root (path : Path) (index : Nat) : path.child index ≠ root := by
  intro same
  have empty : path.indices ++ [index] = [] := congrArg indices same
  exact List.cons_ne_nil index [] (List.append_eq_nil_iff.mp empty).2

theorem text_of_ne_root (nested : path ≠ root) :
    path.text = String.intercalate "." (path.indices.map Nat.repr) :=
  if_neg (indices_ne_nil nested)

theorem text_child (path : Path) (index : Nat) :
    (path.child index).text =
      if path = root then index.repr else path.text ++ "." ++ index.repr := by
  rw [text_of_ne_root (path.child_ne_root index), child, List.map_append, List.map_singleton]
  split
  · next here =>
    subst here
    exact String.intercalate_singleton
  · next nested =>
    have numerals : path.indices.map Nat.repr ≠ [] := mt List.map_eq_nil_iff.mp (indices_ne_nil nested)
    calc
      String.intercalate "." (path.indices.map Nat.repr ++ [index.repr]) =
          String.intercalate "." (path.indices.map Nat.repr) ++ "." ++
            String.intercalate "." [index.repr] :=
        String.intercalate_append_of_ne_nil numerals (List.cons_ne_nil _ _)
      _ = path.text ++ "." ++ index.repr := by
        rw [String.intercalate_singleton, text_of_ne_root nested]

theorem digit_or_point_of_mem_text (nested : path ≠ root) :
    ∀ c ∈ path.text.toList, c.isDigit = true ∨ c = '.' := by
  induction path using child_induction with
  | root => exact absurd rfl nested
  | child path index ih =>
    have digits := (writesNat_repr index).digits
    intro c member
    rw [text_child] at member
    split at member
    · exact .inl (digits c member)
    · next below =>
      rw [String.toList_append, String.toList_append, List.mem_append, List.mem_append] at member
      rcases member with (above | point) | last
      · exact ih below c above
      · exact .inr (List.mem_singleton.mp point)
      · exact .inl (digits c last)

theorem text_ne_text_root (nested : path ≠ root) : path.text ≠ root.text := by
  intro same
  have bracket : '<' ∈ path.text.toList := by
    rw [same]
    decide
  rcases digit_or_point_of_mem_text nested '<' bracket with digit | point
  · cases digit
  · cases point

theorem splitOn_text (nested : path ≠ root) :
    path.text.toList.splitOn '.' = path.indices.map fun index => index.repr.toList := by
  have printed : path.text.toList =
      ['.'].intercalate (path.indices.map fun index => index.repr.toList) := by
    rw [text_of_ne_root nested, String.toList_intercalate, List.map_map]
    rfl
  rw [printed]
  apply List.splitOn_intercalate
  · intro numeral member
    obtain ⟨index, _, rfl⟩ := List.mem_map.mp member
    exact (writesNat_repr index).not_mem (by decide)
  · exact mt List.map_eq_nil_iff.mp (indices_ne_nil nested)

theorem text_injective : Function.Injective text := by
  intro path other same
  -- the text of the root is no list of numerals, so it is set apart before the text is cut
  by_cases here : path = root
  · subst here
    by_contra differ
    exact text_ne_text_root (Ne.symm differ) same.symm
  · have nested : other ≠ root := by
      rintro rfl
      exact text_ne_text_root here same
    have numerals : path.indices.map (fun index => index.repr.toList) =
        other.indices.map fun index => index.repr.toList := by
      rw [← splitOn_text here, same, splitOn_text nested]
    have oneReading : Function.Injective fun index : Nat => index.repr.toList :=
      fun _ _ => eq_of_toList_repr_eq
    exact congrArg mk (List.map_injective_iff.mpr oneReading numerals)

theorem colon_not_mem_text (path : Path) : ':' ∉ path.text.toList := by
  by_cases here : path = root
  · subst here
    decide
  · intro member
    rcases digit_or_point_of_mem_text here ':' member with digit | point
    · cases digit
    · cases point

end Path

/-- A report tells the position and the wording of the cause: its first colon ends the position. -/
theorem ScriptError.message_eq_iff (error other : ScriptError) :
    error.message = other.message ↔
      error.path = other.path ∧ error.cause.message = other.cause.message := by
  have layout (error : ScriptError) : error.message.toList =
      ("action " ++ error.path.text).toList ++ ':' :: (" " ++ error.cause.message).toList := by
    change ("action " ++ error.path.text ++ ": " ++ error.cause.message).toList = _
    simp
  have plain (error : ScriptError) : ':' ∉ ("action " ++ error.path.text).toList := by
    intro member
    rw [String.toList_append, List.mem_append] at member
    rcases member with word | printed
    · exact absurd word (by decide)
    · exact error.path.colon_not_mem_text printed
  constructor
  · intro same
    -- the wording of a cause may hold colons of its own, so the text is cut at the first one
    have cut := congrArg String.toList same
    rw [layout, layout] at cut
    obtain ⟨front, back⟩ := Text.parts_unique (plain error) (plain other) cut
    rw [String.toList_inj, String.append_right_inj] at front back
    exact ⟨Path.text_injective front, back⟩
  · rintro ⟨paths, causes⟩
    rw [message, message, paths, causes]

namespace Path

theorem ne_root_of_mem_placed {script : List Action} {place : Path × Action}
    (member : place ∈ placed script) : place.1 ≠ root := by
  obtain ⟨indices, placed, found⟩ := mem_placedFrom_zero_iff.mp member
  intro here
  rw [here] at placed
  obtain rfl : [] = indices := congrArg Path.indices placed
  cases found

/-- A path can be told from its text. A step down adds a point and the index, or the index alone at the
root. In a script no two actions have the same printed path, and none has that of the script itself. So
the reports of two errors agree just if both errors are at one action and their causes read alike. -/
theorem text_unambiguous :
    Function.Injective text ∧
    (∀ (path : Path) (index : Nat), (path.child index).text =
      if path = root then index.repr else path.text ++ "." ++ index.repr) ∧
    (∀ script : List Action, (root.text :: (placed script).map fun place => place.1.text).Nodup) ∧
    ∀ error other : ScriptError, error.message = other.message ↔
      error.path = other.path ∧ error.cause.message = other.cause.message := by
  refine ⟨text_injective, text_child, ?_, ScriptError.message_eq_iff⟩
  intro script
  have ordered : (placed script).Pairwise (·.1.Before ·.1) :=
    pairwise_placedFrom (fun action _ => action.pairwise_placed) root 0
  rw [List.nodup_cons]
  constructor
  · intro member
    obtain ⟨place, placed, same⟩ := List.mem_map.mp member
    exact text_ne_text_root (ne_root_of_mem_placed placed) same
  · apply List.pairwise_map.mpr
    apply ordered.imp
    intro place later before same
    rw [text_injective same] at before
    exact before.asymm before

example : ((root.child 1).child 12).text = "1.12" := by decide +kernel

end Path

end Replay
