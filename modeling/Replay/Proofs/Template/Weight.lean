import Mathlib.Algebra.Order.BigOperators.Group.List
import Mathlib.Algebra.Order.Group.Nat
import Replay.Proofs.Template.OnePass

/-!
Texts weighed by their characters other than dollars. Rendering changes the weight of every copied token
in one direction, so the parts of a text that comes out as it is written come out so one by one.
-/

namespace Replay.Template

open Text

def letters (text : List Char) : Nat := text.countP (· ≠ '$')

theorem letters_append (left right : List Char) :
    letters (left ++ right) = letters left + letters right :=
  List.countP_append

theorem eq_replicate_of_letters_eq_zero {text : List Char} (none : letters text = 0) :
    text = List.replicate text.length '$' := by
  refine List.eq_replicate_iff.mpr ⟨rfl, fun c member => ?_⟩
  simpa using List.countP_eq_zero.mp none c member

theorem renderChars_dollars (binding : Option (List Char)) (rest : List Char) :
    renderChars binding ('$' :: '$' :: rest) = '$' :: renderChars binding rest := rfl

theorem renderChars_placeholder (binding : Option (List Char)) (rest : List Char) :
    renderChars binding (loopPlaceholder ++ rest) =
      binding.getD loopPlaceholder ++ renderChars binding rest := rfl

/-- The placeholder has six letters, so a binding of other weight shows in every rendering. -/
theorem letters_renderChars (binding : Option (List Char)) (text : List Char) :
    letters (renderChars binding text) + 6 * (scan text).count .loop =
      letters text + letters (binding.getD loopPlaceholder) * (scan text).count .loop := by
  induction text using scan.induct with
  | case1 => rfl
  | case2 rest ih => simpa [renderChars_dollars, letters, scan] using ih
  | case3 rest ih =>
    have rendered := renderChars_placeholder binding rest
    have placeholder : letters loopPlaceholder = 6 := by decide
    have scanned : (scan (loopPlaceholder ++ rest)).count .loop = (scan rest).count .loop + 1 := by
      rw [scan_placeholder, List.count_cons_self]
    change letters (renderChars binding (loopPlaceholder ++ rest)) +
      6 * (scan (loopPlaceholder ++ rest)).count .loop = letters (loopPlaceholder ++ rest) +
        _ * (scan (loopPlaceholder ++ rest)).count .loop
    rw [rendered, scanned, letters_append, letters_append, placeholder, Nat.mul_add, Nat.mul_add]
    omega
  | case4 c rest noDollar noLoop ih =>
    have scanned : scan (c :: rest) = .plain c :: scan rest := scan_other noDollar noLoop
    have rendered : renderChars binding (c :: rest) = c :: renderChars binding rest := by
      rw [renderChars, scanned]
      rfl
    have counted : (scan (c :: rest)).count .loop = (scan rest).count .loop := by
      rw [scanned, List.count_cons_of_ne (by simp)]
    have split (tail : List Char) : letters (c :: tail) = letters [c] + letters tail :=
      letters_append [c] tail
    rw [rendered, counted, split, split rest]
    omega

theorem exists_letters_rendered (binding : Option (List Char)) (part : Part) :
    ∃ count, letters (part.rendered binding) + 6 * count =
      letters part.written + letters (binding.getD loopPlaceholder) * count := by
  cases part with
  | final text => exact ⟨0, rfl⟩
  | copied body =>
    have counted := letters_renderChars binding (body ++ ['}'])
    have opened (rest : List Char) : letters ('$' :: '{' :: rest) = 1 + letters rest :=
      letters_append ['$', '{'] rest
    refine ⟨(scan (body ++ ['}'])).count .loop, ?_⟩
    change letters ('$' :: '{' :: renderChars binding (body ++ ['}'])) + _ =
      letters ('$' :: '{' :: (body ++ ['}'])) + _
    rw [opened, opened]
    omega

theorem letters_rendered_le {binding : Option (List Char)}
    (light : letters (binding.getD loopPlaceholder) ≤ 6) (part : Part) :
    letters (part.rendered binding) ≤ letters part.written := by
  obtain ⟨count, counted⟩ := exists_letters_rendered binding part
  have product := Nat.mul_le_mul_right count light
  omega

theorem letters_written_le {binding : Option (List Char)}
    (heavy : 6 ≤ letters (binding.getD loopPlaceholder)) (part : Part) :
    letters part.written ≤ letters (part.rendered binding) := by
  obtain ⟨count, counted⟩ := exists_letters_rendered binding part
  have product := Nat.mul_le_mul_right count heavy
  omega

theorem letters_eq_of_flatMap_eq {parts : List Part} {f g : Part → List Char}
    (same : parts.flatMap f = parts.flatMap g)
    (le : ∀ part, letters (f part) ≤ letters (g part)) :
    ∀ part ∈ parts, letters (f part) = letters (g part) := by
  intro part member
  by_contra differ
  have less : (parts.map fun part => letters (f part)).sum <
      (parts.map fun part => letters (g part)).sum :=
    List.sum_lt_sum _ _ (fun part _ => le part)
      ⟨part, member, Nat.lt_of_le_of_ne (le part) differ⟩
  have equal := congrArg letters same
  simp only [letters, List.countP_flatMap] at equal less
  exact absurd equal (Nat.ne_of_lt less)

theorem shift_append {k : Nat} {text left right : List Char}
    (same : List.replicate k '$' ++ (text ++ left) = text ++ right) :
    List.replicate k '$' ++ left = right := by
  induction text with
  | nil => exact same
  | cons c text ih =>
    cases k with
    | zero => exact (List.append_right_inj (c :: text)).mp same
    | succ k =>
      simp only [List.replicate_succ, List.cons_append, List.cons.injEq] at same
      obtain ⟨rfl, same⟩ := same
      apply ih
      rw [← same, List.replicate_succ', List.append_assoc]
      rfl

/-- Of two prefixes of the same weight the one that ends in a letter is the shorter one. -/
theorem prefix_of_letters_eq {c : Char} {front left body right : List Char} (ordinary : c ≠ '$')
    (same : front ++ left = (body ++ [c]) ++ right) (weight : letters front = letters (body ++ [c])) :
    ∃ k, front = (body ++ [c]) ++ List.replicate k '$' ∧ List.replicate k '$' ++ left = right := by
  rcases List.append_eq_append_iff.mp same with ⟨more, whole, rest⟩ | ⟨more, rfl, rest⟩
  · have light : letters more = 0 := by
      rw [whole, letters_append] at weight
      omega
    rw [eq_replicate_of_letters_eq_zero light] at whole rest
    have short : more.length = 0 := by
      by_contra long
      have last := congrArg List.getLast? whole
      rw [List.getLast?_concat, List.getLast?_append, List.getLast?_replicate, if_neg long] at last
      exact ordinary (Option.some.inj last)
    rw [short] at whole rest
    exact ⟨0, by simpa using whole.symm, by simpa using rest⟩
  · have light : letters more = 0 := by
      rw [letters_append] at weight
      omega
    rw [eq_replicate_of_letters_eq_zero light] at rest ⊢
    exact ⟨more.length, rfl, rest.symm⟩

theorem kept_of_shifted {binding : Option (List Char)} (parts : List Part)
    (weights : ∀ part ∈ parts, letters (part.rendered binding) = letters part.written) (k : Nat)
    (same : List.replicate k '$' ++ parts.flatMap (Part.rendered binding) =
      parts.flatMap Part.written) :
    k = 0 ∧ ∀ part ∈ parts, part.rendered binding = part.written := by
  induction parts generalizing k with
  | nil => simpa using same
  | cons part parts ih =>
    have weight := weights part List.mem_cons_self
    have rest := ih fun other member => weights other (List.mem_cons_of_mem _ member)
    rw [List.flatMap_cons, List.flatMap_cons] at same
    cases part with
    | final text =>
      obtain ⟨none, kept⟩ := rest k (shift_append same)
      exact ⟨none, by simpa [Part.rendered, Part.written] using kept⟩
    | copied body =>
      -- the brace after the first dollar leaves no room for further dollars in front
      cases k with
      | succ k =>
        cases k <;> simp [Part.rendered, Part.written, List.replicate_succ] at same
      | zero =>
        have token : (Part.copied body).written = ('$' :: '{' :: body) ++ ['}'] := rfl
        rw [List.replicate_zero, List.nil_append, token] at same
        rw [token] at weight
        obtain ⟨j, front, shifted⟩ := prefix_of_letters_eq (by decide) same weight
        obtain ⟨rfl, kept⟩ := rest j shifted
        refine ⟨rfl, ?_⟩
        intro part member
        rcases List.mem_cons.mp member with rfl | member
        · rw [token, front]
          exact List.append_nil _
        · exact kept part member

/-- Equal as a whole means equal part by part. -/
theorem rendered_eq_written_iff (binding : Option (List Char)) (parts : List Part) :
    parts.flatMap (Part.rendered binding) = parts.flatMap Part.written ↔
      ∀ part ∈ parts, part.rendered binding = part.written := by
  constructor
  · intro same
    have weights : ∀ part ∈ parts, letters (part.rendered binding) = letters part.written := by
      rcases Nat.le_total (letters (binding.getD loopPlaceholder)) 6 with light | heavy
      · exact letters_eq_of_flatMap_eq same (letters_rendered_le light)
      · intro part member
        exact (letters_eq_of_flatMap_eq same.symm (letters_written_le heavy) part member).symm
    exact (kept_of_shifted parts weights 0 same).2
  · intro kept
    rw [List.flatMap_congr kept]

end Replay.Template
