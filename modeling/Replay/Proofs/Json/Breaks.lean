import Replay.Proofs.Json.Scanners
import Replay.Text.Split

/-!
Where a text can be broken without a change to its tokens: at the end of a line, and in front of white
space that ends the text. From there, lines may be trimmed and blank ones left out.
-/

namespace Replay.Json

open Text (isBlank trim pieces intercalate_pieces IsBlankText exists_trim)

/-! Breaks in a source -/

/-- A source that begins with a line feed, or holds nothing but white space. No sound token that begins
in front of it reaches into it. -/
def IsBreak (source : Source) : Prop :=
  source.head? = some (some '\n') ∨ ∀ unit ∈ source, isBlankUnit unit = true

theorem IsBreak.atGap {source : Source} (breaks : IsBreak source) : AtGap source := by
  intro unit first
  rcases breaks with feed | blank
  · obtain rfl : some '\n' = unit := Option.some.inj (feed.symm.trans first)
    decide
  · exact blank unit (List.mem_of_mem_head? first)

theorem exists_of_solid {front back used rest : Source} (breaks : IsBreak back) (solid : Solid used)
    (split : front ++ back = used ++ rest) : ∃ after, front = used ++ after ∧ rest = after ++ back := by
  rcases List.append_eq_append_iff.mp split with ⟨extra, rfl, rfl⟩ | ⟨after, rfl, rfl⟩
  · -- what reaches into the break holds its line feed, or ends in its white space
    suffices nothing : extra = [] by
      subst nothing
      exact ⟨[], by simp, rfl⟩
    by_contra something
    obtain ⟨unit, last⟩ := Option.ne_none_iff_exists'.mp (mt List.getLast?_eq_none_iff.mp something)
    rcases breaks with feed | blank
    · rw [List.head?_append_of_ne_nil _ something] at feed
      exact solid.1 (List.mem_append_right _ (List.mem_of_mem_head? feed))
    · have notBlank := solid.2 unit (by rw [List.getLast?_append_of_ne_nil _ something]; exact last)
      have member := List.mem_append_left rest (List.mem_of_getLast? last)
      exact Bool.eq_false_iff.mp notBlank (blank unit member)
  · exact ⟨after, rfl, rfl⟩

theorem resumes_append {source back : Source} (breaks : IsBreak back) :
    Resumes source (source ++ back) ∧ Resumes (source ++ back) source := by
  cases source with
  | nil => exact ⟨.inr breaks.atGap, .inr nofun⟩
  | cons unit source => exact ⟨.inl rfl, .inl rfl⟩

/-- The first token of a source is sound with a break behind the source or without it, and is then the
same in both cases. -/
theorem firstToken_append {front back : Source} (breaks : IsBreak back)
    (sound : (firstToken front).1.sound = true ∨ (firstToken (front ++ back)).1.sound = true) :
    firstToken (front ++ back) = ((firstToken front).1, (firstToken front).2 ++ back) := by
  rcases sound with sound | sound
  · obtain ⟨token, rest, found⟩ : ∃ token rest, firstToken front = (token, rest) := ⟨_, _, rfl⟩
    rw [found] at sound ⊢
    obtain ⟨used, rfl, -, again⟩ := takes_firstToken sound found
    have behind := again _ (resumes_append breaks).1
    rwa [← List.append_assoc] at behind
  · obtain ⟨token, rest, found⟩ : ∃ token rest, firstToken (front ++ back) = (token, rest) := ⟨_, _, rfl⟩
    rw [found] at sound ⊢
    obtain ⟨used, split, solid, again⟩ := takes_firstToken sound found
    obtain ⟨after, rfl, rfl⟩ := exists_of_solid breaks solid split
    rw [again _ (resumes_append breaks).2]

theorem tokens_space {c : Char} (space : isSpace c = true) (rest : Source) :
    tokens (some c :: rest) = tokens rest := by
  rw [tokens, if_pos space]

theorem tokens_firstToken {c : Char} (plain : ¬ isSpace c = true) (rest : Source) :
    tokens (some c :: rest) =
      (firstToken (some c :: rest)).1 :: tokens (firstToken (some c :: rest)).2 := by
  rw [tokens, if_neg plain, firstToken]

theorem tokens_append {front back : Source} (breaks : IsBreak back)
    (sound : (tokens front).all Token.sound = true ∨ (tokens (front ++ back)).all Token.sound = true) :
    tokens (front ++ back) = tokens front ++ tokens back := by
  induction size : front.length using Nat.strong_induction_on generalizing front with
  | _ size ih =>
  match front with
  | [] => simp [tokens]
  | none :: rest =>
    have unsound (rest : Source) : ¬ (tokens (none :: rest)).all Token.sound = true := by
      rw [tokens]
      exact Bool.false_ne_true
    exact absurd sound (not_or.mpr ⟨unsound _, unsound _⟩)
  | some c :: rest =>
    rw [List.length_cons] at size
    -- a space or the first token goes off both sources alike, and less is left in front of the break
    by_cases space : isSpace c = true
    · rw [List.cons_append, tokens_space space, tokens_space space] at sound ⊢
      exact ih _ (by omega) sound rfl
    · rw [List.cons_append, tokens_firstToken space, tokens_firstToken space, List.all_cons,
        List.all_cons, Bool.and_eq_true, Bool.and_eq_true] at sound
      rw [List.cons_append, tokens_firstToken space, tokens_firstToken space]
      have first : firstToken (some c :: (rest ++ back)) = _ :=
        @firstToken_append (some c :: rest) back breaks (sound.imp And.left And.left)
      rw [first] at sound ⊢
      have shorter := length_scanToken c rest
      rw [ih _ (by simp only [firstToken]; omega) (sound.imp And.right And.right) rfl, List.cons_append]

/-! Breaks in a text -/

def textTokens (text : List Char) : List Token := tokens (text.map some)

def Clean (text : List Char) : Prop := (textTokens text).all Token.sound = true

theorem textTokens_nil : textTokens [] = [] := by
  rw [textTokens, List.map_nil, tokens]

theorem textTokens_append {front back : List Char} (breaks : IsBreak (back.map some))
    (clean : Clean front ∨ Clean (front ++ back)) :
    textTokens (front ++ back) = textTokens front ++ textTokens back := by
  rw [Clean, Clean, textTokens, textTokens, List.map_append] at clean
  rw [textTokens, List.map_append, tokens_append breaks clean, ← textTokens, ← textTokens]

theorem clean_append_iff {front back : List Char} (breaks : IsBreak (back.map some)) :
    Clean (front ++ back) ↔ Clean front ∧ Clean back := by
  constructor
  · intro clean
    rwa [Clean, textTokens_append breaks (.inr clean), List.all_append, Bool.and_eq_true] at clean
  · rintro ⟨first, second⟩
    rw [Clean, textTokens_append breaks (.inl first), List.all_append, Bool.and_eq_true]
    exact ⟨first, second⟩

theorem textTokens_blanks_before {blanks text : List Char} (blank : IsBlankText blanks)
    (clean : Clean (blanks ++ text)) : textTokens (blanks ++ text) = textTokens text := by
  induction blanks with
  | nil => rfl
  | cons c blanks ih =>
    obtain ⟨first, others⟩ := List.forall_mem_cons.mp blank
    rw [Clean, textTokens, List.cons_append, List.map_cons] at clean
    rw [textTokens, List.cons_append, List.map_cons]
    by_cases space : isSpace c = true
    · rw [tokens_space space] at clean ⊢
      exact ih others clean
    · rw [tokens_firstToken space, List.all_cons, firstToken_blank first, Bool.false_and] at clean
      cases clean

theorem textTokens_blanks {blanks : List Char} (blank : IsBlankText blanks) (clean : Clean blanks) :
    textTokens blanks = [] := by
  rw [← List.append_nil blanks] at clean ⊢
  rw [textTokens_blanks_before blank clean, textTokens_nil]

theorem textTokens_trim {text : List Char} (clean : Clean text) :
    textTokens (trim text) = textTokens text := by
  obtain ⟨front, back, blankFront, blankBack, whole⟩ := exists_trim text
  have breaks : IsBreak (back.map some) := by
    refine .inr fun unit member => ?_
    obtain ⟨c, within, rfl⟩ := List.mem_map.mp member
    exact blankBack c within
  rw [whole] at clean
  obtain ⟨cleanFront, cleanBack⟩ := (clean_append_iff breaks).mp clean
  calc textTokens (trim text)
    _ = textTokens (front ++ trim text) := (textTokens_blanks_before blankFront cleanFront).symm
    _ = textTokens (front ++ trim text) ++ textTokens back := by
      rw [textTokens_blanks blankBack cleanBack, List.append_nil]
    _ = textTokens text := by rw [← textTokens_append breaks (.inl cleanFront), ← whole]

theorem clean_trim {text : List Char} (clean : Clean text) : Clean (trim text) := by
  rwa [Clean, textTokens_trim clean]

theorem textTokens_intercalate {parts : List (List Char)}
    (clean : (∀ part ∈ parts, Clean part) ∨ Clean (['\n'].intercalate parts)) :
    textTokens (['\n'].intercalate parts) = parts.flatMap textTokens := by
  induction parts with
  | nil => exact textTokens_nil
  | cons part parts ih =>
    match parts with
    | [] => simp
    | next :: rest =>
      have split : ['\n'].intercalate (part :: next :: rest) =
          part ++ '\n' :: ['\n'].intercalate (next :: rest) := by simp [List.intercalate]
      have breaks : IsBreak (('\n' :: ['\n'].intercalate (next :: rest)).map some) := .inl rfl
      have feed : textTokens ('\n' :: ['\n'].intercalate (next :: rest)) =
          textTokens (['\n'].intercalate (next :: rest)) := tokens_space rfl _
      rw [split] at clean ⊢
      rcases clean with each | whole
      · obtain ⟨first, others⟩ := List.forall_mem_cons.mp each
        rw [textTokens_append breaks (.inl first), feed, ih (.inl others)]
        exact List.flatMap_cons.symm
      · have behind := ((clean_append_iff breaks).mp whole).2
        rw [Clean, feed] at behind
        rw [textTokens_append breaks (.inr whole), feed, ih (.inr behind)]
        exact List.flatMap_cons.symm

def contentLines (text : List Char) : List (List Char) :=
  ((pieces (· == '\n') text).map trim).filter fun line => !line.isEmpty

theorem clean_piece {text : List Char} (clean : Clean text) :
    ∀ piece ∈ pieces (· == '\n') text, Clean piece := by
  rw [← intercalate_pieces '\n' text] at clean
  have whole := clean
  rw [Clean, textTokens_intercalate (.inr clean), List.all_flatMap, List.all_eq_true] at whole
  exact whole

theorem flatMap_trimmed {parts : List (List Char)} (clean : ∀ part ∈ parts, Clean part) :
    ((parts.map trim).filter fun line => !line.isEmpty).flatMap textTokens =
      parts.flatMap textTokens := by
  induction parts with
  | nil => rfl
  | cons part parts ih =>
    obtain ⟨first, others⟩ := List.forall_mem_cons.mp clean
    rw [List.map_cons, List.filter_cons, List.flatMap_cons, ← ih others, ← textTokens_trim first]
    split
    · rw [List.flatMap_cons]
    · next blank =>
      have empty : trim part = [] := by simpa using blank
      rw [empty, textTokens_nil, List.nil_append]

/-- Trimming the lines of a text and leaving out blank ones keeps its tokens. -/
theorem textTokens_contentLines {text : List Char} (clean : Clean text) :
    textTokens (['\n'].intercalate (contentLines text)) = textTokens text := by
  have each := clean_piece clean
  have cleanLines : ∀ line ∈ contentLines text, Clean line := by
    intro line member
    obtain ⟨piece, within, rfl⟩ := List.mem_map.mp (List.mem_filter.mp member).1
    exact clean_trim (each piece within)
  calc textTokens (['\n'].intercalate (contentLines text))
    _ = (contentLines text).flatMap textTokens := textTokens_intercalate (.inl cleanLines)
    _ = (pieces (· == '\n') text).flatMap textTokens := flatMap_trimmed each
    _ = textTokens (['\n'].intercalate (pieces (· == '\n') text)) := by
      rw [textTokens_intercalate (.inl each)]
    _ = textTokens text := by rw [intercalate_pieces]

theorem head?_of_clean {line : List Char} (clean : Clean line) :
    line.head? ≠ some '#' ∧ line.head? ≠ some ';' := by
  have first : ∀ c, isSpace c = false → (∀ rest, (firstToken (some c :: rest)).1.sound = false) →
      line.head? ≠ some c := by
    intro c plain unsound head
    obtain ⟨rest, rfl⟩ := List.head?_eq_some_iff.mp head
    rw [Clean, textTokens, List.map_cons, tokens_firstToken (Bool.eq_false_iff.mp plain), List.all_cons,
      unsound, Bool.false_and] at clean
    cases clean
  exact ⟨first '#' (by decide) fun _ => rfl, first ';' (by decide) fun _ => rfl⟩

theorem readText_congr {text other : String} (same : textTokens text.toList = textTokens other.toList) :
    readText text = readText other := by
  have outlines : outline (sourceOf text) = outline (sourceOf other) :=
    congrArg (outlineFrom [] .value) same
  rw [readText, readText, read, read, outlines]

theorem clean_of_readText {text : String} {value : Value} (found : readText text = .ok value) :
    Clean text.toList := sound_of_read found

end Replay.Json
