import Replay.Execution

namespace Replay

namespace Text

def separator : List Char := [',', ' ']

/-- The pieces between separators that are found one behind the other, each the leftmost that begins
behind the one before. -/
inductive CutAtSeparators : List Char → List (List Char) → Prop
  | whole {text : List Char} : ¬separator <:+: text → CutAtSeparators text [text]
  | cut {first rest : List Char} {pieces : List (List Char)} :
      (∀ before after, first ++ separator ++ rest = before ++ separator ++ after →
        first.length ≤ before.length) →
      CutAtSeparators rest pieces → CutAtSeparators (first ++ separator ++ rest) (first :: pieces)

theorem commaPieces_other {c : Char} {rest : List Char} (other : ¬separator <+: c :: rest) :
    commaPieces (c :: rest) = consFirst c (commaPieces rest) := by
  rw [commaPieces]
  intro tail comma space
  apply other
  rw [comma, space]
  exact List.prefix_append separator tail

theorem leftmost_tail {c : Char} {first rest : List Char}
    (leftmost : ∀ before after, c :: first ++ separator ++ rest = before ++ separator ++ after →
      (c :: first).length ≤ before.length) (before after : List Char)
    (same : first ++ separator ++ rest = before ++ separator ++ after) :
    first.length ≤ before.length := by
  have longer := leftmost (c :: before) after (congrArg (c :: ·) same)
  simpa using longer

theorem commaPieces_leftmost {first rest : List Char}
    (leftmost : ∀ before after, first ++ separator ++ rest = before ++ separator ++ after →
      first.length ≤ before.length) :
    commaPieces (first ++ separator ++ rest) = first :: commaPieces rest := by
  induction first with
  | nil => rfl
  | cons c first ih =>
    have other : ¬separator <+: c :: (first ++ separator ++ rest) := by
      rintro ⟨after, same⟩
      have none := leftmost [] after same.symm
      simp at none
    calc
      commaPieces (c :: (first ++ separator ++ rest)) =
          consFirst c (commaPieces (first ++ separator ++ rest)) := commaPieces_other other
      _ = consFirst c (first :: commaPieces rest) := by rw [ih (leftmost_tail leftmost)]
      _ = (c :: first) :: commaPieces rest := rfl

theorem commaPieces_whole {text : List Char} (plain : ¬separator <:+: text) :
    commaPieces text = [text] := by
  induction text with
  | nil => rfl
  | cons c rest ih =>
    rw [List.infix_cons_iff, not_or] at plain
    rw [commaPieces_other plain.1, ih plain.2, consFirst]

theorem CutAtSeparators.consFirst {c : Char} {rest : List Char} {pieces : List (List Char)}
    (other : ¬separator <+: c :: rest) (cut : CutAtSeparators rest pieces) :
    CutAtSeparators (c :: rest) (consFirst c pieces) := by
  cases cut with
  | whole plain =>
    apply CutAtSeparators.whole
    rw [List.infix_cons_iff, not_or]
    exact ⟨other, plain⟩
  | @cut first rest pieces leftmost behind =>
    refine @CutAtSeparators.cut (c :: first) rest pieces ?_ behind
    intro before after same
    cases before with
    | nil => exact absurd ⟨after, same.symm⟩ other
    | cons d before =>
      have shorter := leftmost before after (List.cons.inj same).2
      simpa using shorter

theorem cutAtSeparators_iff (text : List Char) (pieces : List (List Char)) :
    CutAtSeparators text pieces ↔ pieces = commaPieces text := by
  constructor
  · intro cut
    induction cut with
    | whole plain => rw [commaPieces_whole plain]
    | cut leftmost _ ih => rw [commaPieces_leftmost leftmost, ih]
  · rintro rfl
    induction text using commaPieces.induct with
    | case1 => exact .whole (by simp [separator])
    | case2 rest ih =>
      exact @CutAtSeparators.cut [] rest _ (fun before _ _ => Nat.zero_le before.length) ih
    | case3 c rest other ih =>
      have notHere : ¬separator <+: c :: rest := by
        rintro ⟨tail, same⟩
        exact other tail (List.cons.inj same).1.symm (List.cons.inj same).2.symm
      rw [commaPieces_other notHere]
      exact ih.consFirst notHere

namespace CutAtSeparators

variable {text : List Char} {pieces : List (List Char)}

theorem ne_nil (cut : CutAtSeparators text pieces) : pieces ≠ [] := by
  cases cut with
  | whole _ => exact List.cons_ne_nil _ _
  | cut _ _ => exact List.cons_ne_nil _ _

theorem intercalate_eq (cut : CutAtSeparators text pieces) :
    separator.intercalate pieces = text := by
  induction cut with
  | whole plain => exact List.intercalate_singleton
  | cut leftmost behind ih => rw [List.intercalate_cons_of_ne_nil behind.ne_nil, ih]

theorem plain (cut : CutAtSeparators text pieces) : ∀ piece ∈ pieces, ¬separator <:+: piece := by
  induction cut with
  | whole plain => simpa using plain
  | @cut first rest pieces leftmost behind ih =>
    intro piece member
    rcases List.mem_cons.mp member with rfl | later
    · rintro ⟨before, after, rfl⟩
      have shorter := leftmost before (after ++ separator ++ rest) (by simp)
      simp only [List.length_append, separator, List.length_cons] at shorter
      omega
    · exact ih piece later

end CutAtSeparators

/-- In front of a separator a text that holds none does not begin one either: its last comma is
followed by a comma. -/
theorem leftmost_of_plain {first : List Char} (plain : ¬separator <:+: first)
    (rest before after : List Char)
    (same : first ++ separator ++ rest = before ++ separator ++ after) :
    first.length ≤ before.length := by
  induction first generalizing before with
  | nil => exact Nat.zero_le _
  | cons c first ih =>
    rw [List.infix_cons_iff, not_or] at plain
    cases before with
    | nil =>
      exfalso
      apply plain.1
      cases first with
      | nil => simp [separator] at same
      | cons d first =>
        have begins : c :: d :: (first ++ separator ++ rest) = ',' :: ' ' :: after := same
        obtain ⟨rfl, behind⟩ := List.cons.inj begins
        obtain ⟨rfl, _⟩ := List.cons.inj behind
        exact List.prefix_append separator first
    | cons d before =>
      have shorter := ih plain.2 before (List.cons.inj same).2
      simpa using shorter

theorem cutAtSeparators_intercalate {pieces : List (List Char)} (nonempty : pieces ≠ [])
    (plain : ∀ piece ∈ pieces, ¬separator <:+: piece) :
    CutAtSeparators (separator.intercalate pieces) pieces := by
  induction pieces with
  | nil => exact absurd rfl nonempty
  | cons first rest ih =>
    obtain ⟨here, behind⟩ := List.forall_mem_cons.mp plain
    cases rest with
    | nil =>
      rw [List.intercalate_singleton]
      exact .whole here
    | cons second rest =>
      rw [List.intercalate_cons_cons]
      exact .cut (leftmost_of_plain here _) (ih (List.cons_ne_nil _ _) behind)

end Text

open Text

theorem map_toList_loopTokens (source : String) :
    (loopTokens source).map String.toList = (commaPieces source.toList).filter (· ≠ []) := by
  simp [loopTokens]

theorem plain_of_mem_loopTokens {source token : String} (member : token ∈ loopTokens source) :
    token ≠ "" ∧ ¬separator <:+: token.toList := by
  have listed : token.toList ∈ (commaPieces source.toList).filter (· ≠ []) := by
    rw [← map_toList_loopTokens]
    exact List.mem_map_of_mem member
  obtain ⟨piece, written⟩ := List.mem_filter.mp listed
  have cut := (cutAtSeparators_iff source.toList _).mpr rfl
  refine ⟨?_, cut.plain _ piece⟩
  rintro rfl
  simp at written

theorem loopTokens_intercalate {tokens : List String}
    (plain : ∀ token ∈ tokens, token ≠ "" ∧ ¬separator <:+: token.toList) :
    loopTokens (", ".intercalate tokens) = tokens := by
  cases tokens with
  | nil => rfl
  | cons first rest =>
    have pieces : commaPieces (", ".intercalate (first :: rest)).toList =
        (first :: rest).map String.toList := by
      symm
      rw [String.toList_intercalate, ← cutAtSeparators_iff]
      apply cutAtSeparators_intercalate
      · exact List.cons_ne_nil _ _
      · intro piece member
        obtain ⟨token, listed, rfl⟩ := List.mem_map.mp member
        exact (plain token listed).2
    have written : ((first :: rest).map String.toList).filter (· ≠ []) =
        (first :: rest).map String.toList := by
      apply List.filter_eq_self.mpr
      intro piece member
      obtain ⟨token, listed, rfl⟩ := List.mem_map.mp member
      simpa using (plain token listed).1
    rw [loopTokens, pieces, written]
    simp

/-- Joined tokens are read back just if each of them is written and holds no separator, whatever commas
and spaces it begins or ends with. The tokens of any source are written, hold no separator, and are the
pieces between its separators that are not empty, in order; there is one way to cut the source at its
leftmost separators, and the pieces make it up again. -/
theorem loopTokens_invert_joining :
    (∀ tokens, loopTokens (", ".intercalate tokens) = tokens ↔
      ∀ token ∈ tokens, token ≠ "" ∧ ¬separator <:+: token.toList) ∧
    ∀ source, (∀ token ∈ loopTokens source, token ≠ "" ∧ ¬separator <:+: token.toList) ∧
      ∃ pieces : List String, loopTokens source = pieces.filter (· ≠ "") ∧
        ", ".intercalate pieces = source ∧
        ∀ parts, CutAtSeparators source.toList parts ↔ parts = pieces.map String.toList := by
  refine ⟨?_, ?_⟩
  · intro tokens
    constructor
    · intro same token member
      rw [← same] at member
      exact plain_of_mem_loopTokens member
    · exact loopTokens_intercalate
  · intro source
    have cut := (cutAtSeparators_iff source.toList _).mpr rfl
    refine ⟨fun token => plain_of_mem_loopTokens,
      (commaPieces source.toList).map String.ofList, ?_, ?_, ?_⟩
    · rw [loopTokens, List.filter_map]
      apply congrArg
      apply List.filter_congr
      intro piece member
      simp
    · have joined : separator.intercalate (commaPieces source.toList) = source.toList :=
        cut.intercalate_eq
      rw [← String.toList_inj, String.toList_intercalate]
      simpa [separator] using joined
    · intro parts
      rw [cutAtSeparators_iff]
      simp

/-- A comma stays with the token before it and a space with the one behind. -/
example : loopTokens "a,,  b, " = ["a,", " b"] := by decide +kernel

end Replay
