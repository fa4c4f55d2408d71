import Mathlib.Logic.Function.Basic
import Replay.Proofs.Template.Scan

namespace Replay.Template

open Text

/-- The texts between the placeholders, with escapes undone. -/
def segments : List Piece → List (List Char)
  | [] => [[]]
  | .plain c :: rest => consFirst c (segments rest)
  | .escapedDollar :: rest => consFirst '$' (segments rest)
  | .loop :: rest => [] :: segments rest

theorem consFirst_ne_nil (c : Char) (parts : List (List Char)) : consFirst c parts ≠ [] := by
  cases parts <;> exact List.cons_ne_nil _ _

theorem segments_ne_nil (pieces : List Piece) : segments pieces ≠ [] := by
  rcases pieces with _ | ⟨_ | _ | _, rest⟩
  · exact List.cons_ne_nil _ _
  · exact consFirst_ne_nil _ _
  · exact consFirst_ne_nil _ _
  · exact List.cons_ne_nil _ _

theorem length_consFirst (c : Char) {parts : List (List Char)} (nonempty : parts ≠ []) :
    (consFirst c parts).length = parts.length := by
  cases parts with
  | nil => exact absurd rfl nonempty
  | cons part rest => rfl

theorem length_segments (pieces : List Piece) :
    (segments pieces).length = pieces.count .loop + 1 := by
  induction pieces with
  | nil => rfl
  | cons piece rest ih =>
    cases piece with
    | plain c =>
      rw [segments, length_consFirst _ (segments_ne_nil rest), ih, List.count_cons_of_ne (by simp)]
    | escapedDollar =>
      rw [segments, length_consFirst _ (segments_ne_nil rest), ih, List.count_cons_of_ne (by simp)]
    | loop => rw [segments, List.length_cons, ih, List.count_cons_self]

theorem intercalate_segments (binding : Option (List Char)) (pieces : List Piece) :
    (binding.getD loopPlaceholder).intercalate (segments pieces) =
      pieces.flatMap (Piece.render binding) := by
  induction pieces with
  | nil => rfl
  | cons piece rest ih =>
    rw [List.flatMap_cons, ← ih]
    cases piece with
    | plain c => exact intercalate_consFirst _ c (segments_ne_nil rest)
    | escapedDollar => exact intercalate_consFirst _ '$' (segments_ne_nil rest)
    | loop =>
      rw [segments, List.intercalate_cons_of_ne_nil (segments_ne_nil rest), List.nil_append]
      rfl

theorem length_intercalate (separator first : List Char) (rest : List (List Char)) :
    (separator.intercalate (first :: rest)).length =
      (first :: rest).flatten.length + rest.length * separator.length := by
  induction rest generalizing first with
  | nil => simp
  | cons second rest ih =>
    rw [List.intercalate_cons_cons, List.length_append, List.length_append, ih]
    simp only [List.flatten_cons, List.length_append, List.length_cons, Nat.succ_mul]
    omega

theorem intercalate_injective (first second : List Char) (rest : List (List Char)) :
    Function.Injective fun separator : List Char => separator.intercalate (first :: second :: rest) := by
  intro separator other same
  have lengths := congrArg List.length same
  simp only [length_intercalate, Nat.add_left_cancel_iff] at lengths
  have sameLength : separator.length = other.length :=
    Nat.eq_of_mul_eq_mul_left (Nat.succ_pos rest.length) lengths
  simp only [List.intercalate_cons_cons, List.append_assoc, List.append_cancel_left_eq] at same
  exact List.append_inj_left same sameLength

theorem renderChars_of_no_dollar (binding : Option (List Char)) {template : List Char}
    (plain : '$' ∉ template) : renderChars binding template = template := by
  induction template with
  | nil => rfl
  | cons c rest ih =>
    rw [List.mem_cons, not_or] at plain
    rw [renderChars, scan_plain (Ne.symm plain.1), List.flatMap_cons]
    exact congrArg (c :: ·) (ih plain.2)

theorem render_eq_intercalate (template : String) (binding : Option String) :
    render template binding = (binding.getD "$\x7bloop\x7d").intercalate
      ((segments (scan template.toList)).map String.ofList) := by
  have joiner : (binding.getD "$\x7bloop\x7d").toList =
      (binding.map String.toList).getD loopPlaceholder := by
    cases binding <;> rfl
  have texts : ((segments (scan template.toList)).map String.ofList).map String.toList =
      segments (scan template.toList) := by
    simp
  rw [← String.toList_inj, render, String.toList_ofList, String.toList_intercalate, joiner, texts,
    intercalate_segments, renderChars]

theorem mentionsLoop_iff_segments (template : String) :
    mentionsLoop template = true ↔
      2 ≤ ((segments (scan template.toList)).map String.ofList).length := by
  rw [mentionsLoop, mentionsLoopChars, List.contains_iff_mem, List.length_map, length_segments,
    ← List.count_pos_iff]
  omega

def findsLoop : List Char → Bool
  | [] => false
  | '$' :: '$' :: rest => findsLoop rest
  | '$' :: '{' :: 'l' :: 'o' :: 'o' :: 'p' :: '}' :: _ => true
  | _ :: rest => findsLoop rest

/-- The search keeps in step with the reading of the whole template, whatever dollars come together. -/
theorem findsLoop_eq (template : List Char) : findsLoop template = mentionsLoopChars template := by
  rw [mentionsLoopChars]
  induction template using findsLoop.induct with
  | case1 => rfl
  | case2 rest ih => rw [findsLoop, scan, ih, List.contains_cons]; rfl
  | case3 rest => rfl
  | case4 c rest noEscape noPlaceholder ih =>
    rw [findsLoop, scan, ih, List.contains_cons]
    · rfl
    all_goals assumption

theorem render_of_not_mentionsLoop {template : String} (absent : ¬mentionsLoop template = true)
    (binding other : String) : render template (some binding) = render template (some other) := by
  rw [mentionsLoop_iff_segments] at absent
  rw [render_eq_intercalate, render_eq_intercalate]
  generalize (segments (scan template.toList)).map String.ofList = parts at absent ⊢
  rcases parts with _ | ⟨first, _ | ⟨second, rest⟩⟩
  · rfl
  · rfl
  · exact absurd (Nat.le_add_left 2 rest.length) absent

theorem render_injective {template : String} (mentions : mentionsLoop template = true) :
    Function.Injective fun binding => render template (some binding) := by
  rw [mentionsLoop_iff_segments] at mentions
  intro binding other same
  simp only [render_eq_intercalate] at same
  generalize (segments (scan template.toList)).map String.ofList = parts at mentions same
  rcases parts with _ | ⟨first, _ | ⟨second, rest⟩⟩
  · exact absurd mentions (Nat.not_succ_le_zero 1)
  · exact absurd mentions (Nat.not_succ_le_self 1)
  · have chars := congrArg String.toList same
    simp only [String.toList_intercalate, Option.getD_some, List.map_cons] at chars
    exact String.toList_inj.mp (intercalate_injective _ _ _ chars)

/-- Every template is made of segments, which rendering joins by the binding as it stands, or by the
placeholder if there is none. It mentions the loop just if there are two segments or more, which is just
if its rendering depends on the binding, and then the binding can be told from it. To find out, a search
for the first placeholder is enough. A text without dollars need not be rendered. -/
theorem render_joins_segments (template : String) :
    (∃ segments : List String, segments ≠ [] ∧
      (∀ binding, render template (some binding) = binding.intercalate segments) ∧
      render template none = "$\x7bloop\x7d".intercalate segments ∧
      (mentionsLoop template = true ↔ 2 ≤ segments.length)) ∧
    mentionsLoop template = findsLoop template.toList ∧
    (mentionsLoop template = true ↔
      ∃ binding other, render template (some binding) ≠ render template (some other)) ∧
    (mentionsLoop template = true ↔
      Function.Injective fun binding => render template (some binding)) ∧
    ∀ binding, (if '$' ∈ template.toList then render template binding else template) =
      render template binding := by
  refine ⟨⟨(segments (scan template.toList)).map String.ofList, ?_, ?_, ?_, ?_⟩,
    (findsLoop_eq template.toList).symm, ⟨?_, ?_⟩, ⟨?_, ?_⟩, ?_⟩
  · exact mt List.map_eq_nil_iff.mp (segments_ne_nil _)
  · exact fun binding => render_eq_intercalate template (some binding)
  · exact render_eq_intercalate template none
  · exact mentionsLoop_iff_segments template
  · exact fun mentions => ⟨"", "$", (render_injective mentions).ne (by decide)⟩
  · rintro ⟨binding, other, differ⟩
    by_contra absent
    exact differ (render_of_not_mentionsLoop absent binding other)
  · exact render_injective
  · intro injective
    by_contra absent
    exact absurd (injective (render_of_not_mentionsLoop absent "" "$")) (by decide)
  · intro binding
    split
    · rfl
    · next plain =>
      rw [render, renderChars_of_no_dollar _ plain, String.ofList_toList]

end Replay.Template
