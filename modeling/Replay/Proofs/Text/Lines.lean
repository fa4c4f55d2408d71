import Replay.Text.Split

namespace Replay.Text

/-- A text that can stand as one line: it holds no line feed, and no carriage return at its end, which
would count as part of the line's end. -/
def IsLine (line : List Char) : Prop := '\n' ∉ line ∧ line.getLast? ≠ some '\r'

theorem lines_cons_of_ne {c : Char} {rest : List Char} (plain : c ≠ '\n')
    (notReturn : c = '\r' → rest.head? ≠ some '\n') : lines (c :: rest) = consFirst c (lines rest) := by
  rw [lines]
  · exact plain
  · rintro tail rfl rfl
    exact notReturn rfl rfl

theorem lines_line_feed {line : List Char} (isLine : IsLine line) (rest : List Char) :
    lines (line ++ '\n' :: rest) = line :: lines rest := by
  induction line with
  | nil => rw [List.nil_append, lines]
  | cons c line ih =>
    obtain ⟨noFeed, noReturn⟩ := isLine
    rw [List.mem_cons, not_or] at noFeed
    have tail : IsLine line := by
      refine ⟨noFeed.2, fun ending => noReturn ?_⟩
      rw [List.getLast?_cons, ending, Option.getD_some]
    rw [List.cons_append, lines_cons_of_ne (Ne.symm noFeed.1), ih tail, consFirst]
    rintro rfl
    cases line with
    | nil => exact absurd rfl noReturn
    | cons d line =>
      intro feed
      obtain rfl : d = '\n' := Option.some.inj feed
      exact absurd List.mem_cons_self noFeed.2

theorem lines_return_line_feed {line : List Char} (noFeed : '\n' ∉ line) (rest : List Char) :
    lines (line ++ '\r' :: '\n' :: rest) = line :: lines rest := by
  induction line with
  | nil => rw [List.nil_append, lines]
  | cons c line ih =>
    rw [List.mem_cons, not_or] at noFeed
    have notFeed : (line ++ '\r' :: '\n' :: rest).head? ≠ some '\n' := by
      cases line with
      | nil => exact fun feed => absurd (Option.some.inj feed) (by decide)
      | cons d line =>
        intro feed
        obtain rfl : d = '\n' := Option.some.inj feed
        exact absurd List.mem_cons_self noFeed.2
    rw [List.cons_append, lines_cons_of_ne (Ne.symm noFeed.1) fun _ => notFeed, ih noFeed.2, consFirst]

theorem exists_lines_feed {line : List Char} (noFeed : '\n' ∉ line) (rest : List Char) :
    ∃ front, lines (line ++ '\n' :: rest) = front :: lines rest ∧
      (line = front ∨ line = front ++ ['\r']) := by
  by_cases ending : line.getLast? = some '\r'
  · obtain ⟨front, rfl⟩ := List.getLast?_eq_some_iff.mp ending
    have noFeedFront : '\n' ∉ front := fun member => noFeed (List.mem_append_left _ member)
    refine ⟨front, ?_, .inr rfl⟩
    rw [List.append_assoc]
    exact lines_return_line_feed noFeedFront rest
  · exact ⟨line, lines_line_feed ⟨noFeed, ending⟩ rest, .inl rfl⟩

theorem lines_last {line : List Char} (nonempty : line ≠ []) (noFeed : '\n' ∉ line) :
    lines line = [line] := by
  induction line with
  | nil => exact absurd rfl nonempty
  | cons c rest ih =>
    rw [List.mem_cons, not_or] at noFeed
    have notFirst : rest.head? ≠ some '\n' := fun feed => noFeed.2 (List.mem_of_mem_head? feed)
    rw [lines_cons_of_ne (Ne.symm noFeed.1) fun _ => notFirst]
    by_cases ended : rest = []
    · subst ended
      rfl
    · rw [ih ended noFeed.2, consFirst]

def unlines (parts : List (List Char)) : List Char := parts.flatMap (· ++ ['\n'])

theorem lines_unlines_append {parts : List (List Char)} (areLines : ∀ part ∈ parts, IsLine part)
    (rest : List Char) : lines (unlines parts ++ rest) = parts ++ lines rest := by
  induction parts with
  | nil => rfl
  | cons part parts ih =>
    obtain ⟨first, others⟩ := List.forall_mem_cons.mp areLines
    have whole : unlines (part :: parts) ++ rest = part ++ '\n' :: (unlines parts ++ rest) := by
      simp [unlines]
    rw [whole, lines_line_feed first, ih others, List.cons_append]

/-- A text of lines is read as these, whether or not its last line ends with a line feed. -/
theorem lines_of_unlines {parts : List (List Char)} (areLines : ∀ part ∈ parts, IsLine part)
    (written : ∀ part ∈ parts, part ≠ []) {text : List Char}
    (whole : text = unlines parts ∨ text ++ ['\n'] = unlines parts) : lines text = parts := by
  rcases whole with rfl | whole
  · have read := lines_unlines_append areLines []
    rwa [List.append_nil, lines, List.append_nil] at read
  · rcases List.eq_nil_or_concat parts with rfl | ⟨front, last, rfl⟩
    · simp [unlines] at whole
    · rw [List.concat_eq_append] at areLines written whole ⊢
      have split : text = unlines front ++ last := by
        have same : text ++ ['\n'] = unlines front ++ last ++ ['\n'] := by simpa [unlines] using whole
        exact List.append_cancel_right same
      have member : last ∈ front ++ [last] := List.mem_append_right _ (List.mem_singleton_self _)
      have earlier : ∀ part ∈ front, IsLine part :=
        fun part within => areLines part (List.mem_append_left _ within)
      rw [split, lines_unlines_append earlier, lines_last (written _ member) (areLines _ member).1]

theorem mem_consFirst {c : Char} {parts : List (List Char)} {part : List Char}
    (member : part ∈ consFirst c parts) :
    part ∈ parts ∨ ∃ tail, part = c :: tail ∧ (tail = [] ∨ tail ∈ parts) := by
  cases parts with
  | nil => exact .inr ⟨[], List.mem_singleton.mp member, .inl rfl⟩
  | cons first rest =>
    rcases List.mem_cons.mp member with rfl | later
    · exact .inr ⟨first, rfl, .inr List.mem_cons_self⟩
    · exact .inl (List.mem_cons_of_mem _ later)

theorem not_mem_of_mem_pieces {p : Char → Bool} {text piece : List Char}
    (member : piece ∈ pieces p text) : ∀ c ∈ piece, p c = false := by
  induction text generalizing piece with
  | nil =>
    obtain rfl := List.mem_singleton.mp member
    exact nofun
  | cons c rest ih =>
    rw [pieces] at member
    split at member
    · rcases List.mem_cons.mp member with rfl | later
      · exact nofun
      · exact ih later
    · next plain =>
      rcases mem_consFirst member with later | ⟨tail, rfl, short⟩
      · exact ih later
      · refine List.forall_mem_cons.mpr ⟨by simpa using plain, ?_⟩
        rcases short with rfl | later
        · exact nofun
        · exact ih later

theorem pieces_append {p : Char → Bool} {front : List Char} (absent : ∀ c ∈ front, p c = false)
    {text first : List Char} {more : List (List Char)} (split : pieces p text = first :: more) :
    pieces p (front ++ text) = (front ++ first) :: more := by
  induction front with
  | nil => exact split
  | cons c front ih =>
    obtain ⟨plain, others⟩ := List.forall_mem_cons.mp absent
    rw [List.cons_append, pieces, if_neg (Bool.eq_false_iff.mp plain), ih others, consFirst,
      List.cons_append]

theorem pieces_of_forall {p : Char → Bool} {text : List Char} (absent : ∀ c ∈ text, p c = false) :
    pieces p text = [text] := by
  have nothing : pieces p [] = [[]] := rfl
  have whole := pieces_append absent nothing
  rwa [List.append_nil] at whole

theorem beq_false_of_not_mem {separator : Char} {text : List Char} (absent : separator ∉ text) :
    ∀ c ∈ text, (c == separator) = false := by
  intro c member
  exact beq_eq_false_iff_ne.mpr fun same => absent (same ▸ member)

theorem pieces_line_feed {line : List Char} (noFeed : '\n' ∉ line) (rest : List Char) :
    pieces (· == '\n') (line ++ '\n' :: rest) = line :: pieces (· == '\n') rest := by
  have behind : pieces (· == '\n') ('\n' :: rest) = [] :: pieces (· == '\n') rest := rfl
  rw [pieces_append (beq_false_of_not_mem noFeed) behind, List.append_nil]

theorem cutAtFirst_append {p : Char → Bool} {c : Char} {before : List Char} (after : List Char)
    (absent : ∀ other ∈ before, p other = false) (accepted : p c = true) :
    cutAtFirst p (before ++ c :: after) = some (before, after) := by
  induction before with
  | nil => simp [cutAtFirst, accepted]
  | cons first before ih =>
    obtain ⟨plain, others⟩ := List.forall_mem_cons.mp absent
    simp [cutAtFirst, plain, ih others]

theorem cutAtFirst_eq_some_iff {separator : Char} {text before after : List Char} :
    cutAtFirst (· == separator) text = some (before, after) ↔
      text = before ++ separator :: after ∧ separator ∉ before := by
  constructor
  · intro cut
    obtain ⟨c, same, whole, none⟩ := eq_of_cutAtFirst cut
    obtain rfl : c = separator := eq_of_beq same
    refine ⟨whole, ?_⟩
    intro member
    simpa using List.all_eq_true.mp none c member
  · rintro ⟨rfl, absent⟩
    exact cutAtFirst_append after (beq_false_of_not_mem absent) (beq_self_eq_true separator)

theorem parts_unique {separator : Char} {before before' after after' : List Char}
    (absent : separator ∉ before) (absent' : separator ∉ before')
    (same : before ++ separator :: after = before' ++ separator :: after') :
    before = before' ∧ after = after' := by
  have cut := cutAtFirst_eq_some_iff.mpr ⟨same, absent'⟩
  rw [cutAtFirst_eq_some_iff.mpr ⟨rfl, absent⟩] at cut
  exact Prod.mk.inj (Option.some.inj cut)

end Replay.Text
