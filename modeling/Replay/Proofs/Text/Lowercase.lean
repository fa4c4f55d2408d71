import Replay.Proofs.Text.Trim

namespace Replay.Text

/-- No counterpart in the run has one in the other. Where their spans meet, both go by twos and keep out
of step. -/
def ShiftRun.misses (run other : ShiftRun) : Bool :=
  Nat.blt run.target.2 other.first || Nat.blt other.last run.target.1 ||
    (other.step == 2 && (run.step == 2 || run.first == run.last) &&
      0 ≤ (run.first : Int) + run.delta && ((run.first : Int) + run.delta - other.first) % 2 == 1)

theorem ShiftRun.not_covers_of_misses {run other : ShiftRun} (misses : run.misses other = true)
    {code : Nat} (covered : run.covers code = true) :
    ¬other.covers ((code : Int) + run.delta).toNat = true := by
  intro both
  simp only [covers, Bool.and_eq_true, decide_eq_true_eq, beq_iff_eq] at covered both
  simp only [ShiftRun.misses, target, Nat.blt_eq, Bool.or_eq_true, Bool.and_eq_true, beq_iff_eq,
    decide_eq_true_eq] at misses
  obtain ⟨⟨above, below⟩, inStep⟩ := covered
  obtain ⟨⟨above', below'⟩, inStep'⟩ := both
  rcases misses with (before | behind) | ⟨⟨⟨twos, alike⟩, least⟩, odd⟩
  · omega
  · omega
  · rw [twos] at inStep'
    rcases alike with twos | single
    · rw [twos] at inStep
      omega
    · omega

theorem lowerRuns_miss :
    (lowerRuns.all fun run => lowerRuns.all fun other => run.misses other) = true := by
  decide +kernel

theorem shifted?_image {code image : Nat} (found : shifted? lowerRuns code = some image) :
    shifted? lowerRuns image = none := by
  obtain ⟨run, first, rfl⟩ := Option.map_eq_some_iff.mp found
  have covered := List.find?_some first
  have member := List.mem_of_find?_eq_some first
  have misses := List.all_eq_true.mp (List.all_eq_true.mp lowerRuns_miss run member)
  rw [shifted?, Option.map_eq_none_iff, List.find?_eq_none]
  exact fun other member => ShiftRun.not_covers_of_misses (misses other member) covered

theorem image_ne_dotted {code image : Nat} (found : shifted? lowerRuns code = some image) :
    image ≠ 0x130 := by
  have apart : Apart [(0x130, 0x130)] (lowerRuns.map ShiftRun.target) := by decide +kernel
  rintro rfl
  exact Bool.false_ne_true ((apart.not_inSpans (by decide)).symm.trans (shifted?_spans found).2)

def Settled (c : Char) : Prop := c ≠ capitalSigma ∧ lowercaseChar c = [c]

instance (c : Char) : Decidable (Settled c) := inferInstanceAs (Decidable (_ ∧ _))

theorem settled_of_unshifted {c : Char} (unshifted : shifted? lowerRuns c.toNat = none)
    (plain : c.toNat ≠ 0x130) : Settled c := by
  constructor
  · rintro rfl
    exact absurd unshifted (by decide +kernel)
  · rw [lowercaseChar, if_neg plain, unshifted]

theorem settled_ofNat {code : Nat} (unshifted : shifted? lowerRuns code = none)
    (plain : code ≠ 0x130) : Settled (Char.ofNat code) := by
  by_cases valid : code.isValidChar
  · have same : (Char.ofNat code).toNat = code := by
      rw [Char.ofNat, dif_pos valid]
      rfl
    exact settled_of_unshifted (by rwa [same]) (by rwa [same])
  · have nul : Char.ofNat code = Char.ofNat 0 := dif_neg valid
    rw [nul]
    decide +kernel

theorem settled_lowercaseChar (c : Char) : ∀ d ∈ lowercaseChar c, Settled d := by
  intro d member
  rw [lowercaseChar] at member
  split at member
  · simp only [List.mem_cons, List.not_mem_nil, or_false] at member
    rcases member with rfl | rfl <;> decide +kernel
  · next plain =>
    split at member
    · next image found =>
      obtain rfl := List.mem_singleton.mp member
      exact settled_ofNat (shifted?_image found) (image_ne_dotted found)
    · next unshifted =>
      obtain rfl := List.mem_singleton.mp member
      exact settled_of_unshifted unshifted plain

theorem settled_lowercaseFrom (afterCased : Bool) (text : List Char) :
    ∀ d ∈ lowercaseFrom afterCased text, Settled d := by
  induction text generalizing afterCased with
  | nil => exact nofun
  | cons c rest ih =>
    rw [lowercaseFrom]
    refine List.forall_mem_append.mpr ⟨?_, ih _⟩
    split
    · refine List.forall_mem_singleton.mpr ?_
      split <;> decide +kernel
    · exact settled_lowercaseChar c

theorem lowercaseFrom_of_settled (afterCased : Bool) {text : List Char}
    (settled : ∀ c ∈ text, Settled c) : lowercaseFrom afterCased text = text := by
  induction text generalizing afterCased with
  | nil => rfl
  | cons c rest ih =>
    obtain ⟨⟨notSigma, same⟩, settled⟩ := List.forall_mem_cons.mp settled
    simp only [lowercaseFrom, if_neg notSigma, same, ih _ settled, List.singleton_append]

theorem lowercase_lowercase (text : List Char) : lowercase (lowercase text) = lowercase text :=
  lowercaseFrom_of_settled false (settled_lowercaseFrom false text)

/-! The letters of ASCII -/

structure SameCased (c d : Char) : Prop where
  form : lowercaseChar c = lowercaseChar d
  ignorable : isCaseIgnorable c = isCaseIgnorable d
  cased : isCased c = isCased d
  notSigma : c ≠ capitalSigma ∧ d ≠ capitalSigma

theorem capital_letters : ∀ place < 26,
    let c := Char.ofNat (0x41 + place)
    lowercaseChar c = [c.toLower] ∧ c.toNat = 0x41 + place ∧ c.toLower.toNat = 0x61 + place ∧
      isCased c = true ∧ isCased c.toLower = true := by
  decide +kernel

theorem letters_not_ignorable : Apart [(0x41, 0x5A), (0x61, 0x7A)] ignorableSpans := by
  decide +kernel

theorem sameCased_toLower {place : Nat} (letter : place < 26) :
    SameCased (Char.ofNat (0x41 + place)).toLower (Char.ofNat (0x41 + place)) := by
  obtain ⟨form, capital, small, casedCapital, casedSmall⟩ := capital_letters place letter
  have settled : Settled (Char.ofNat (0x41 + place)).toLower :=
    settled_lowercaseChar _ _ (form ▸ List.mem_singleton_self _)
  have passed : isCaseIgnorable (Char.ofNat (0x41 + place)) = false :=
    letters_not_ignorable.not_inSpans (by simp [inSpans, capital]; omega)
  have passed' : isCaseIgnorable (Char.ofNat (0x41 + place)).toLower = false :=
    letters_not_ignorable.not_inSpans (by simp [inSpans, small]; omega)
  refine ⟨settled.2.trans form.symm, passed'.trans passed.symm, casedSmall.trans casedCapital.symm,
    settled.1, fun sigma => ?_⟩
  have far : capitalSigma.toNat = 0x3A3 := rfl
  rw [← sigma, capital] at far
  omega

theorem toLower_eq_or_sameCased (c : Char) : c.toLower = c ∨ SameCased c.toLower c := by
  by_cases capital : c.val ≥ 'A'.val ∧ c.val ≤ 'Z'.val
  · have above : 0x41 ≤ c.toNat := capital.1
    have below : c.toNat ≤ 0x5A := capital.2
    have letter := @sameCased_toLower (c.toNat - 0x41) (by omega)
    rw [Nat.add_sub_cancel' above, Char.ofNat_toNat] at letter
    exact .inr letter
  · exact .inl (dif_neg capital)

theorem continuesCased_toLower (text : List Char) :
    continuesCased (text.map Char.toLower) = continuesCased text := by
  induction text with
  | nil => rfl
  | cons c rest ih =>
    rw [List.map_cons, continuesCased, continuesCased, ih]
    rcases toLower_eq_or_sameCased c with same | alike
    · rw [same]
    · rw [alike.ignorable, alike.cased]

theorem lowercaseFrom_toLower (afterCased : Bool) (text : List Char) :
    lowercaseFrom afterCased (text.map Char.toLower) = lowercaseFrom afterCased text := by
  induction text generalizing afterCased with
  | nil => rfl
  | cons c rest ih =>
    simp only [List.map_cons, lowercaseFrom, continuesCased_toLower, ih]
    rcases toLower_eq_or_sameCased c with same | alike
    · rw [same]
    · rw [if_neg alike.notSigma.1, if_neg alike.notSigma.2, alike.form, alike.ignorable, alike.cased]

theorem lowercase_toLower (text : List Char) : lowercase (text.map Char.toLower) = lowercase text :=
  lowercaseFrom_toLower false text

end Replay.Text
