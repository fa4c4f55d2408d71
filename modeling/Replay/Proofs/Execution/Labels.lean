import Replay.Execution
import Replay.Proofs.Text.Lines

namespace Replay

/-- The name stands in the locator between its first quote and the next quote of that kind, and is not
empty. -/
def FirstQuoted (locator name : String) : Prop :=
  ∃ front quote back, locator.toList = front ++ quote :: (name.toList ++ quote :: back) ∧
    isQuote quote = true ∧ (∀ c ∈ front, isQuote c = false) ∧ quote ∉ name.toList ∧ name ≠ ""

structure Opens (text front : List Char) (quote : Char) (rest : List Char) : Prop where
  whole : text = front ++ quote :: rest
  quoted : isQuote quote = true
  before : ∀ c ∈ front, isQuote c = false

theorem unquoted_or_opens (text : List Char) :
    (∀ c ∈ text, isQuote c = false) ∨ ∃ front quote rest, Opens text front quote rest := by
  cases found : text.find? isQuote with
  | none =>
    left
    simpa using found
  | some quote =>
    obtain ⟨quoted, front, rest, whole, before⟩ := List.find?_eq_some_iff_append.mp found
    exact .inr ⟨front, quote, rest, whole, quoted, by simpa using before⟩

theorem quotedLabelChars_append {front : List Char} (before : ∀ c ∈ front, isQuote c = false)
    (text : List Char) : quotedLabelChars (front ++ text) = quotedLabelChars text := by
  induction front with
  | nil => rfl
  | cons c front ih =>
    obtain ⟨plain, others⟩ := List.forall_mem_cons.mp before
    rw [List.cons_append, quotedLabelChars, plain, if_neg Bool.false_ne_true, ih others]

theorem quotedLabelChars_of_unquoted {text : List Char} (plain : ∀ c ∈ text, isQuote c = false) :
    quotedLabelChars text = none := by
  have nothing := quotedLabelChars_append plain []
  rwa [List.append_nil] at nothing

theorem Opens.quotedLabelChars_eq {text front rest : List Char} {quote : Char}
    (opens : Opens text front quote rest) :
    quotedLabelChars text = (Text.cutAtFirst (· == quote) rest).bind fun parts =>
      if parts.1 = [] then none else some parts.1 := by
  rw [opens.whole, quotedLabelChars_append opens.before, quotedLabelChars, if_pos opens.quoted]

theorem quotedLabelChars_eq_some {text name : List Char}
    (found : quotedLabelChars text = some name) :
    ∃ front quote back, Opens text front quote (name ++ quote :: back) ∧ quote ∉ name ∧ name ≠ [] := by
  rcases unquoted_or_opens text with plain | ⟨front, quote, rest, opens⟩
  · rw [quotedLabelChars_of_unquoted plain] at found
    cases found
  · rw [opens.quotedLabelChars_eq] at found
    obtain ⟨⟨inner, back⟩, cut, chosen⟩ := Option.bind_eq_some_iff.mp found
    obtain ⟨rfl, absent⟩ := Text.cutAtFirst_eq_some_iff.mp cut
    dsimp only at chosen
    split at chosen
    · cases chosen
    · next nonempty =>
      obtain rfl := Option.some.inj chosen
      exact ⟨front, quote, back, opens, absent, nonempty⟩

/-- Behind the first quote there is no label if that quote is the last of its kind, or if the next one
follows at once. -/
theorem Opens.quotedLabelChars_eq_none_iff {text front rest : List Char} {quote : Char}
    (opens : Opens text front quote rest) :
    quotedLabelChars text = none ↔ quote ∉ rest ∨ rest.head? = some quote := by
  rw [opens.quotedLabelChars_eq]
  cases rest with
  | nil => simp [Text.cutAtFirst]
  | cons c rest =>
    by_cases closes : c = quote
    · subst closes
      simp [Text.cutAtFirst]
    · simp [Text.cutAtFirst, Text.cutAtFirst_eq, closes, Ne.symm closes]

theorem quotedLabel_eq_some_iff (locator name : String) :
    quotedLabel locator = some name ↔ FirstQuoted locator name := by
  constructor
  · intro found
    obtain ⟨chars, inside, rfl⟩ := Option.map_eq_some_iff.mp found
    obtain ⟨front, quote, back, opens, absent, nonempty⟩ := quotedLabelChars_eq_some inside
    refine ⟨front, quote, back, ?_, opens.quoted, opens.before, ?_, ?_⟩
    · rw [opens.whole, String.toList_ofList]
    · rwa [String.toList_ofList]
    · intro empty
      exact nonempty (String.ofList_eq_empty_iff.mp empty)
  · rintro ⟨front, quote, back, whole, quoted, before, absent, nonempty⟩
    have opens : Opens locator.toList front quote (name.toList ++ quote :: back) :=
      ⟨whole, quoted, before⟩
    have cut : Text.cutAtFirst (· == quote) (name.toList ++ quote :: back) =
        some (name.toList, back) := Text.cutAtFirst_eq_some_iff.mpr ⟨rfl, absent⟩
    have filled : name.toList ≠ [] := fun empty => nonempty (String.toList_eq_nil_iff.mp empty)
    rw [quotedLabel, opens.quotedLabelChars_eq, cut, Option.bind_some, if_neg filled,
      Option.map_some, String.ofList_toList]

theorem quotedLabel_eq_none_iff (locator : String) :
    quotedLabel locator = none ↔ ∀ front quote rest, Opens locator.toList front quote rest →
      quote ∉ rest ∨ rest.head? = some quote := by
  rw [quotedLabel, Option.map_eq_none_iff]
  constructor
  · intro nothing front quote rest opens
    exact opens.quotedLabelChars_eq_none_iff.mp nothing
  · intro useless
    rcases unquoted_or_opens locator.toList with plain | ⟨front, quote, rest, opens⟩
    · exact quotedLabelChars_of_unquoted plain
    · exact opens.quotedLabelChars_eq_none_iff.mpr (useless front quote rest opens)

/-- The name is what the locator holds between two positions, the one behind its first quote and the one
of the next quote of that kind. A position is a count of bytes that cuts no character in two. -/
def FoundBetween (locator name : String) : Prop :=
  ∃ (opening closing : locator.Pos) (inside : opening ≠ locator.endPos),
    locator.find? isQuote = some opening ∧
    (opening.next inside).find? (opening.get inside) = some closing ∧
    locator.extract (opening.next inside) closing = name ∧ name ≠ ""

theorem extract_of_splits {text front middle back : String} {start stop : text.Pos}
    (before : start.Splits front (middle ++ back)) (behind : stop.Splits (front ++ middle) back) :
    text.extract start stop = middle := by
  obtain ⟨ordered, copied⟩ := String.copy_slice_eq_iff_splits.mpr ⟨front, back, before, behind⟩
  rw [String.extract_eq_copy_slice start stop ordered, copied]

theorem FirstQuoted.foundBetween {locator name : String} (first : FirstQuoted locator name) :
    FoundBetween locator name := by
  obtain ⟨front, quote, back, whole, quoted, before, absent, nonempty⟩ := first
  have atOpening : locator = String.ofList front ++
      (String.singleton quote ++ (name ++ (String.singleton quote ++ String.ofList back))) := by
    rw [← String.toList_inj, whole]
    simp
  have atClosing : locator = String.ofList front ++ String.singleton quote ++ name ++
      (String.singleton quote ++ String.ofList back) := by
    rw [atOpening]
    simp only [String.append_assoc]
  -- both positions come from a way to write the locator as two texts, so no character is cut
  have opening := String.Pos.splits_ofEqAppend atOpening
  have closing := String.Pos.splits_ofEqAppend atClosing
  refine ⟨.ofEqAppend atOpening, .ofEqAppend atClosing, opening.ne_endPos_of_singleton, ?_, ?_, ?_,
    nonempty⟩
  · apply String.find?_bool_eq_some_iff_splits.mpr
    refine ⟨String.ofList front, quote, _, opening, quoted, ?_⟩
    rwa [String.toList_ofList]
  · rw [opening.next.get_eq_of_singleton]
    exact (String.Pos.find?_char_eq_some_iff_splits opening.next).mpr ⟨name, _, closing, absent⟩
  · exact extract_of_splits opening.next closing

theorem FoundBetween.firstQuoted {locator name : String} (found : FoundBetween locator name) :
    FirstQuoted locator name := by
  obtain ⟨opening, closing, inside, opens, closes, rfl, nonempty⟩ := found
  obtain ⟨front, quote, rest, first, quoted, before⟩ := String.find?_bool_eq_some_iff_splits.mp opens
  rw [first.next.get_eq_of_singleton] at closes
  obtain ⟨inner, back, second, absent⟩ :=
    (String.Pos.find?_char_eq_some_iff_splits first.next).mp closes
  have behind : rest = inner ++ (String.singleton quote ++ back) := by
    apply (String.append_right_inj (front ++ String.singleton quote)).mp
    calc
      front ++ String.singleton quote ++ rest = locator := first.next.eq_append.symm
      _ = front ++ String.singleton quote ++ inner ++ (String.singleton quote ++ back) :=
        second.eq_append
      _ = front ++ String.singleton quote ++ (inner ++ (String.singleton quote ++ back)) :=
        String.append_assoc
  rw [behind] at first
  rw [extract_of_splits first.next second] at nonempty ⊢
  refine ⟨front.toList, quote, back.toList, ?_, quoted, before, absent, nonempty⟩
  rw [first.eq_append]
  simp

/-- The label of a locator is what stands between its first quote and the next quote of that kind,
unless this is empty; quotes of the other kind may stand in it. There is none just if the locator has no
quote, or its first one is followed by no other of its kind, or at once by one. A search by positions
finds the same: it stops only where a character begins. -/
theorem quotedLabel_first_literal (locator : String) :
    (∀ name, quotedLabel locator = some name ↔ FirstQuoted locator name) ∧
    (quotedLabel locator = none ↔ ∀ front quote rest, Opens locator.toList front quote rest →
      quote ∉ rest ∨ rest.head? = some quote) ∧
    ∀ name, quotedLabel locator = some name ↔ FoundBetween locator name := by
  refine ⟨quotedLabel_eq_some_iff locator, quotedLabel_eq_none_iff locator, ?_⟩
  intro name
  rw [quotedLabel_eq_some_iff]
  exact ⟨FirstQuoted.foundBetween, FoundBetween.firstQuoted⟩

/-- The kind of the first quote counts, and nothing behind an empty literal does. -/
example : quotedLabel "//a[text()=\"次'へ\"]" = some "次'へ" ∧
    quotedLabel "//a[@id='' and text()=\"次へ\"]" = none := by decide +kernel

end Replay
