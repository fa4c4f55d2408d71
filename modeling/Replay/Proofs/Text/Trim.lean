import Mathlib.Data.List.Basic
import Mathlib.Data.List.TakeWhile
import Replay.Text.Blank
import Replay.Text.Lowercase

namespace Replay.Text

def IsBlankText (text : List Char) : Prop := ∀ c ∈ text, isBlank c = true

def IsTrimmed (text : List Char) : Prop :=
  (∀ c ∈ text.head?, isBlank c = false) ∧ ∀ c ∈ text.getLast?, isBlank c = false

theorem isTrimmed_trim (text : List Char) : IsTrimmed (trim text) :=
  ⟨head?_trimEnd (head?_dropWhile isBlank text), getLast?_trimEnd _⟩

theorem trim_eq_self_iff (text : List Char) : trim text = text ↔ IsTrimmed text := by
  constructor
  · intro same
    have trimmed := isTrimmed_trim text
    rwa [same] at trimmed
  · intro trimmed
    have start : trimStart text = text := dropWhile_eq_self trimmed.1
    rw [trim, start, trimEnd_eq_self trimmed.2]

instance (text : List Char) : Decidable (IsTrimmed text) := decidable_of_iff _ (trim_eq_self_iff text)

theorem isTrimmed_nil : IsTrimmed [] := ⟨nofun, nofun⟩

theorem isTrimmed_of_forall {text : List Char} (solid : ∀ c ∈ text, isBlank c = false) :
    IsTrimmed text :=
  ⟨fun c first => solid c (List.mem_of_mem_head? first),
    fun c last => solid c (List.mem_of_getLast? last)⟩

theorem isTrimmed_append {front back : List Char} (nonemptyFront : front ≠ []) (nonemptyBack : back ≠ [])
    (first : ∀ c ∈ front.head?, isBlank c = false) (last : ∀ c ∈ back.getLast?, isBlank c = false) :
    IsTrimmed (front ++ back) := by
  constructor
  · rwa [List.head?_append_of_ne_nil _ nonemptyFront]
  · rwa [List.getLast?_append_of_ne_nil _ nonemptyBack]

/-! White space around a text -/

theorem trimStart_blanks {front : List Char} (blank : IsBlankText front) (text : List Char) :
    trimStart (front ++ text) = trimStart text :=
  List.dropWhile_append_of_pos blank

theorem trimEnd_blanks {back : List Char} (blank : IsBlankText back) (text : List Char) :
    trimEnd (text ++ back) = trimEnd text := by
  have reversed : ∀ c ∈ back.reverse, isBlank c = true :=
    fun c member => blank c (List.mem_reverse.mp member)
  rw [trimEnd, trimEnd, List.reverse_append, List.dropWhile_append_of_pos reversed]

theorem trim_blanks_behind {back : List Char} (blank : IsBlankText back) (text : List Char) :
    trim (text ++ back) = trim text := by
  have start : trimStart (text ++ back) =
      if (trimStart text).isEmpty then trimStart back else trimStart text ++ back :=
    List.dropWhile_append
  rw [trim, trim, start]
  split
  · next none =>
    have gone : trimStart back = [] := List.dropWhile_eq_nil_iff.mpr blank
    rw [gone, List.isEmpty_iff.mp none]
  · exact trimEnd_blanks blank _

theorem trim_blanks {front back : List Char} (blankFront : IsBlankText front)
    (blankBack : IsBlankText back) (text : List Char) : trim (front ++ text ++ back) = trim text := by
  rw [trim_blanks_behind blankBack, trim, trimStart_blanks blankFront, ← trim]

theorem exists_trimEnd (text : List Char) :
    ∃ back, IsBlankText back ∧ text = trimEnd text ++ back := by
  refine ⟨(text.reverse.takeWhile isBlank).reverse, fun c member => ?_, ?_⟩
  · exact List.mem_takeWhile_imp (List.mem_reverse.mp member)
  · rw [trimEnd, ← List.reverse_append, List.takeWhile_append_dropWhile, List.reverse_reverse]

theorem trim_trimEnd (text : List Char) : trim (trimEnd text) = trim text := by
  obtain ⟨back, blank, whole⟩ := exists_trimEnd text
  calc trim (trimEnd text) = trim (trimEnd text ++ back) := (trim_blanks_behind blank _).symm
    _ = trim text := by rw [← whole]

theorem trimEnd_append {front : List Char} (last : ∀ c ∈ front.getLast?, isBlank c = false)
    (back : List Char) : trimEnd (front ++ back) = front ++ trimEnd back := by
  obtain ⟨blanks, blank, whole⟩ := exists_trimEnd back
  have ends : ∀ c ∈ (front ++ trimEnd back).getLast?, isBlank c = false := by
    by_cases empty : trimEnd back = []
    · rwa [empty, List.append_nil]
    · rw [List.getLast?_append_of_ne_nil _ empty]
      exact getLast?_trimEnd back
  calc trimEnd (front ++ back)
    _ = trimEnd (front ++ trimEnd back ++ blanks) := by rw [List.append_assoc, ← whole]
    _ = trimEnd (front ++ trimEnd back) := trimEnd_blanks blank _
    _ = front ++ trimEnd back := trimEnd_eq_self ends

theorem exists_trim (text : List Char) :
    ∃ front back, IsBlankText front ∧ IsBlankText back ∧ text = front ++ trim text ++ back := by
  obtain ⟨back, blank, whole⟩ := exists_trimEnd (trimStart text)
  refine ⟨text.takeWhile isBlank, back, fun c member => List.mem_takeWhile_imp member, blank, ?_⟩
  calc text = text.takeWhile isBlank ++ trimStart text := List.takeWhile_append_dropWhile.symm
    _ = text.takeWhile isBlank ++ trim text ++ back := by rw [List.append_assoc, trim, ← whole]

/-- The texts are the same but for white space at their ends. -/
def SameInside (left right : List Char) : Prop :=
  ∃ core front back front' back', IsBlankText front ∧ IsBlankText back ∧ IsBlankText front' ∧
    IsBlankText back' ∧ left = front ++ core ++ back ∧ right = front' ++ core ++ back'

theorem sameInside_iff (left right : List Char) :
    SameInside left right ↔ trim left = trim right := by
  constructor
  · rintro ⟨core, front, back, front', back', hf, hb, hf', hb', rfl, rfl⟩
    rw [trim_blanks hf hb, trim_blanks hf' hb']
  · intro same
    obtain ⟨front, back, hf, hb, wholeLeft⟩ := exists_trim left
    obtain ⟨front', back', hf', hb', wholeRight⟩ := exists_trim right
    exact ⟨trim left, front, back, front', back', hf, hb, hf', hb', wholeLeft, same ▸ wholeRight⟩

/-! White space in lower case -/

def blankSpans : List (Nat × Nat) :=
  [(0x09, 0x0D), (0x20, 0x20), (0x85, 0x85), (0xA0, 0xA0), (0x1680, 0x1680), (0x2000, 0x200A),
    (0x2028, 0x2029), (0x202F, 0x202F), (0x205F, 0x205F), (0x3000, 0x3000)]

theorem isBlank_iff (c : Char) : isBlank c = true ↔ inSpans blankSpans c.toNat = true := by
  simp only [isBlank, inSpans, blankSpans, List.any_cons, List.any_nil, Bool.or_eq_true,
    Bool.and_eq_true, decide_eq_true_eq, beq_iff_eq, Bool.or_false]
  omega

def Apart (spans others : List (Nat × Nat)) : Prop :=
  ∀ span ∈ spans, ∀ other ∈ others, span.2 < other.1 ∨ other.2 < span.1

instance (spans others : List (Nat × Nat)) : Decidable (Apart spans others) :=
  inferInstanceAs (Decidable (∀ span ∈ spans, ∀ other ∈ others, span.2 < other.1 ∨ other.2 < span.1))

theorem Apart.not_inSpans {spans others : List (Nat × Nat)} (apart : Apart spans others) {code : Nat}
    (inside : inSpans spans code = true) : inSpans others code = false := by
  obtain ⟨span, member, inside⟩ := List.any_eq_true.mp inside
  refine Bool.eq_false_iff.mpr fun both => ?_
  obtain ⟨other, memberToo, insideToo⟩ := List.any_eq_true.mp both
  simp only [Bool.and_eq_true, decide_eq_true_eq] at inside insideToo
  have := apart span member other memberToo
  omega

def ShiftRun.source (run : ShiftRun) : Nat × Nat := (run.first, run.last)

def ShiftRun.target (run : ShiftRun) : Nat × Nat :=
  (((run.first : Int) + run.delta).toNat, ((run.last : Int) + run.delta).toNat)

theorem shifted?_spans {runs : List ShiftRun} {code image : Nat}
    (found : shifted? runs code = some image) :
    inSpans (runs.map ShiftRun.source) code = true ∧ inSpans (runs.map ShiftRun.target) image = true := by
  obtain ⟨run, first, rfl⟩ := Option.map_eq_some_iff.mp found
  have covers := List.find?_some first
  have member := List.mem_of_find?_eq_some first
  simp only [ShiftRun.covers, Bool.and_eq_true, decide_eq_true_eq] at covers
  constructor
  · refine List.any_eq_true.mpr ⟨run.source, List.mem_map_of_mem member, ?_⟩
    simp [ShiftRun.source, covers]
  · refine List.any_eq_true.mpr ⟨run.target, List.mem_map_of_mem member, ?_⟩
    have above : run.target.1 ≤ ((code : Int) + run.delta).toNat := by
      simp only [ShiftRun.target]
      omega
    have below : ((code : Int) + run.delta).toNat ≤ run.target.2 := by
      simp only [ShiftRun.target]
      omega
    simp [above, below]

theorem blankSpans_caseless : Apart blankSpans
    ((0x3A3, 0x3A3) :: (0x130, 0x130) :: (lowerRuns.map ShiftRun.source ++ ignorableSpans ++ casedSpans)) := by
  decide +kernel

theorem blankSpans_not_lowercase : Apart blankSpans (lowerRuns.map ShiftRun.target) := by
  decide +kernel

theorem inSpans_of_isBlank_ofNat {code : Nat} (blank : isBlank (Char.ofNat code) = true) :
    inSpans blankSpans code = true := by
  rw [isBlank_iff] at blank
  by_cases valid : code.isValidChar
  · have same : Char.ofNat code = Char.ofNatAux code valid := dif_pos valid
    rwa [same] at blank
  · have nul : Char.ofNat code = Char.ofNat 0 := dif_neg valid
    rw [nul] at blank
    exact absurd blank (by decide)

theorem lowercaseChar_not_blank {c : Char} (notBlank : isBlank c = false) :
    ∀ d ∈ lowercaseChar c, isBlank d = false := by
  intro d member
  rw [lowercaseChar] at member
  split at member
  · simp only [List.mem_cons, List.not_mem_nil, or_false] at member
    rcases member with rfl | rfl <;> decide
  · split at member
    · next image found =>
      obtain rfl := List.mem_singleton.mp member
      refine Bool.eq_false_iff.mpr fun blank => ?_
      have outside := blankSpans_not_lowercase.not_inSpans (inSpans_of_isBlank_ofNat blank)
      exact Bool.eq_false_iff.mp outside (shifted?_spans found).2
    · obtain rfl := List.mem_singleton.mp member
      exact notBlank

/-- The lower-case form of a character in its place: one or more characters, none of them white space
unless the character is. -/
theorem lowercaseFrom_cons (afterCased : Bool) (c : Char) (rest : List Char) :
    ∃ form, form ≠ [] ∧ (isBlank c = false → ∀ d ∈ form, isBlank d = false) ∧
      lowercaseFrom afterCased (c :: rest) =
        form ++ lowercaseFrom (if isCaseIgnorable c then afterCased else isCased c) rest := by
  refine ⟨_, ?_, ?_, rfl⟩
  · split
    · exact List.cons_ne_nil _ _
    · exact lowercaseChar_ne_nil c
  · intro notBlank
    split
    · intro d member
      obtain rfl := List.mem_singleton.mp member
      split <;> decide
    · exact lowercaseChar_not_blank notBlank

theorem lowercaseFrom_ne_nil (afterCased : Bool) {text : List Char} (nonempty : text ≠ []) :
    lowercaseFrom afterCased text ≠ [] := by
  obtain ⟨c, rest, rfl⟩ := List.exists_cons_of_ne_nil nonempty
  obtain ⟨form, some, -, whole⟩ := lowercaseFrom_cons afterCased c rest
  exact whole ▸ List.append_ne_nil_of_left_ne_nil some _

theorem head?_lowercaseFrom (afterCased : Bool) {text : List Char}
    (first : ∀ c ∈ text.head?, isBlank c = false) :
    ∀ d ∈ (lowercaseFrom afterCased text).head?, isBlank d = false := by
  cases text with
  | nil => exact nofun
  | cons c rest =>
    obtain ⟨form, some, notBlank, whole⟩ := lowercaseFrom_cons afterCased c rest
    intro d member
    rw [whole, List.head?_append_of_ne_nil _ some] at member
    exact notBlank (first c rfl) d (List.mem_of_mem_head? member)

theorem getLast?_lowercaseFrom (afterCased : Bool) {text : List Char}
    (last : ∀ c ∈ text.getLast?, isBlank c = false) :
    ∀ d ∈ (lowercaseFrom afterCased text).getLast?, isBlank d = false := by
  induction text generalizing afterCased with
  | nil => exact nofun
  | cons c rest ih =>
    obtain ⟨form, some, notBlank, whole⟩ := lowercaseFrom_cons afterCased c rest
    intro d member
    rw [whole] at member
    by_cases ended : rest = []
    · subst ended
      rw [lowercaseFrom, List.append_nil] at member
      exact notBlank (last c rfl) d (List.mem_of_mem_getLast? member)
    · rw [List.getLast?_append_of_ne_nil _ (lowercaseFrom_ne_nil _ ended)] at member
      rw [List.getLast?_cons_of_ne_nil ended] at last
      exact ih _ last d member

theorem isTrimmed_lowercase {text : List Char} (trimmed : IsTrimmed text) :
    IsTrimmed (lowercase text) :=
  ⟨head?_lowercaseFrom false trimmed.1, getLast?_lowercaseFrom false trimmed.2⟩

theorem isBlank_caseless {c : Char} (blank : isBlank c = true) :
    c ≠ capitalSigma ∧ lowercaseChar c = [c] ∧ isCaseIgnorable c = false ∧ isCased c = false := by
  have outside := blankSpans_caseless.not_inSpans ((isBlank_iff c).mp blank)
  simp only [inSpans, List.any_cons, List.any_append, Bool.or_eq_false_iff] at outside
  obtain ⟨notSigma, notDotted, ⟨unshifted, passed⟩, uncased⟩ := outside
  refine ⟨?_, ?_, passed, uncased⟩
  · rintro rfl
    exact absurd notSigma (by decide)
  · have plain : c.toNat ≠ 0x130 := by
      intro dotted
      simp [dotted] at notDotted
    rw [lowercaseChar, if_neg plain]
    split
    · next image found => exact absurd (shifted?_spans found).1 (Bool.eq_false_iff.mp unshifted)
    · rfl

theorem lowercaseFrom_blank {c : Char} (blank : isBlank c = true) (afterCased : Bool)
    (rest : List Char) :
    lowercaseFrom afterCased (c :: rest) = c :: lowercaseFrom false rest := by
  obtain ⟨notSigma, same, passed, uncased⟩ := isBlank_caseless blank
  simp only [lowercaseFrom, if_neg notSigma, same, passed, uncased, Bool.false_eq_true, ↓reduceIte,
    List.singleton_append]

theorem continuesCased_blanks {back : List Char} (blank : IsBlankText back) (text : List Char) :
    continuesCased (text ++ back) = continuesCased text := by
  induction text with
  | nil =>
    cases back with
    | nil => rfl
    | cons c rest =>
      obtain ⟨-, -, passed, uncased⟩ := isBlank_caseless (blank c List.mem_cons_self)
      simp [continuesCased, passed, uncased]
  | cons c rest ih => simp only [List.cons_append, continuesCased, ih]

theorem lowercaseFrom_blanks {blanks : List Char} (blank : IsBlankText blanks) (afterCased : Bool) :
    lowercaseFrom afterCased blanks = blanks := by
  induction blanks generalizing afterCased with
  | nil => rfl
  | cons c rest ih =>
    rw [lowercaseFrom_blank (blank c List.mem_cons_self),
      ih fun d member => blank d (List.mem_cons_of_mem _ member)]

theorem lowercase_blanks_before {front : List Char} (blank : IsBlankText front) (text : List Char) :
    lowercase (front ++ text) = front ++ lowercase text := by
  induction front with
  | nil => rfl
  | cons c rest ih =>
    have behind : IsBlankText rest := fun d member => blank d (List.mem_cons_of_mem _ member)
    rw [List.cons_append, lowercase, lowercaseFrom_blank (blank c List.mem_cons_self)]
    exact congrArg (c :: ·) (ih behind)

theorem lowercaseFrom_blanks_behind {back : List Char} (blank : IsBlankText back)
    (afterCased : Bool) (text : List Char) :
    lowercaseFrom afterCased (text ++ back) = lowercaseFrom afterCased text ++ back := by
  induction text generalizing afterCased with
  | nil => exact lowercaseFrom_blanks blank afterCased
  | cons c rest ih =>
    simp only [List.cons_append, lowercaseFrom, continuesCased_blanks blank, ih, List.append_assoc]

/-- Lower case and trimming can change places. -/
theorem lowercase_trim (text : List Char) : lowercase (trim text) = trim (lowercase text) := by
  obtain ⟨front, back, blankFront, blankBack, whole⟩ := exists_trim text
  have apart : lowercase text = front ++ lowercase (trim text) ++ back := by
    calc lowercase text = lowercase (front ++ (trim text ++ back)) := by rw [← List.append_assoc, ← whole]
      _ = front ++ lowercase (trim text ++ back) := lowercase_blanks_before blankFront _
      _ = front ++ (lowercase (trim text) ++ back) := by
        rw [lowercase, lowercaseFrom_blanks_behind blankBack, ← lowercase]
      _ = _ := (List.append_assoc ..).symm
  rw [apart, trim_blanks blankFront blankBack,
    (trim_eq_self_iff _).mpr (isTrimmed_lowercase (isTrimmed_trim text))]

end Replay.Text
