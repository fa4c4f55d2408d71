import Mathlib.Algebra.Ring.Nat
import Replay.Proofs.Store.Reading
import Replay.Proofs.Text.Lines
import Replay.Proofs.Text.Trim

namespace Replay

def IniError.renumber (number : Nat → Nat) : IniError → IniError
  | missingHeader line => missingHeader (number line)
  | repeatedSection line name => repeatedSection (number line) name
  | repeatedKey line name key => repeatedKey (number line) name key
  | malformed line content => malformed (number line) content

namespace Ini

open Text

section Reading

variable (cursor : Cursor)

theorem readLine_padded (number : Nat) {blanks : List Char} (blank : IsBlankText blanks)
    (line : List Char) : cursor.readLine number (line ++ blanks) = cursor.readLine number line := by
  have content : trim (line ++ blanks) = trim line := trim_blanks_behind blank line
  cases line with
  | nil =>
    have leftOut : isLeftOut (trim ([] ++ blanks)) = true := by rw [content]; rfl
    rw [readLine_leftOut number leftOut, readLine_leftOut number rfl]
  | cons c line =>
    have starts : startsBlank (c :: line ++ blanks) = startsBlank (c :: line) := rfl
    simp only [Cursor.readLine, content, starts]

theorem isBlankText_return : IsBlankText ['\r'] := List.forall_mem_singleton.mpr rfl

theorem readLines_lines (number : Nat) (text : List Char) :
    cursor.readLines number (lines text) = cursor.readLines number (pieces (· == '\n') text) := by
  induction size : text.length using Nat.strong_induction_on generalizing text cursor number with
  | _ length ih =>
  by_cases feed : '\n' ∈ text
  · obtain ⟨line, rest, rfl, noFeed⟩ := List.eq_append_cons_of_mem feed
    have shorter : rest.length < length := by
      rw [List.length_append, List.length_cons] at size
      omega
    obtain ⟨front, split, same⟩ := exists_lines_feed noFeed rest
    have first : cursor.readLine number front = cursor.readLine number line := by
      rcases same with rfl | rfl
      · rfl
      · exact (readLine_padded cursor number isBlankText_return front).symm
    rw [split, pieces_line_feed noFeed, readLines_cons, readLines_cons, first]
    cases cursor.readLine number line with
    | error error => rfl
    | ok next => exact ih _ shorter next (number + 1) rest rfl
  · rw [pieces_of_forall (beq_false_of_not_mem feed)]
    by_cases empty : text = []
    · subst empty
      rw [readLines_cons, readLine_leftOut number rfl]
      rfl
    · rw [lines_last empty feed]

end Reading

/-! Numbers of lines -/

section Renumbering

variable (cursor : Cursor) (number : Nat → Nat) (line : Nat)

theorem openSection_renumber (name : String) :
    cursor.openSection (number line) name =
      (cursor.openSection line name).mapError (·.renumber number) := by
  rw [Cursor.openSection, Cursor.openSection]
  split <;> rfl

theorem addEntry_renumber (content : List Char) :
    cursor.addEntry (number line) content =
      (cursor.addEntry line content).mapError (·.renumber number) := by
  rw [Cursor.addEntry, Cursor.addEntry]
  split
  · rfl
  · split
    · rfl
    · dsimp only
      split <;> rfl

theorem readLine_renumber (raw : List Char) :
    cursor.readLine (number line) raw =
      (cursor.readLine line raw).mapError (·.renumber number) := by
  rw [Cursor.readLine, Cursor.readLine]
  split
  · rfl
  · split
    · rfl
    · split
      · exact openSection_renumber cursor number line _
      · exact addEntry_renumber cursor number line _

end Renumbering

/-! Spacing -/

def IsLineEnd (ending : List Char) : Prop := ending = ['\n'] ∨ ending = ['\r', '\n']

def IsPadding (blanks : List Char) : Prop := IsBlankText blanks ∧ '\n' ∉ blanks

instance (blanks : List Char) : Decidable (IsPadding blanks) :=
  decidable_of_iff (blanks.all isBlank = true ∧ '\n' ∉ blanks) (and_congr_left' List.all_eq_true)

/-- The second text is the first with other spacing: white space may be put behind each of its lines, the
ends of lines may be exchanged, and blank lines and comments may be put between lines. The counts tell
how many of these stand in front of each line. -/
inductive Respaced : List Nat → List Char → List Char → Prop
  | last {line blanks : List Char} : '\n' ∉ line → IsPadding blanks →
      Respaced [0] line (line ++ blanks)
  | line {line blanks ending ending' text text' : List Char} {counts : List Nat} : '\n' ∉ line →
      IsPadding blanks → IsLineEnd ending → IsLineEnd ending' → Respaced counts text text' →
      Respaced (0 :: counts) (line ++ ending ++ text) (line ++ blanks ++ ending' ++ text')
  | inserted {line ending text text' : List Char} {count : Nat} {counts : List Nat} : '\n' ∉ line →
      isLeftOut (trim line) = true → IsLineEnd ending → Respaced (count :: counts) text text' →
      Respaced ((count + 1) :: counts) text (line ++ ending ++ text')

theorem exists_pieces_end {line ending : List Char} (noFeed : '\n' ∉ line) (isEnd : IsLineEnd ending)
    (rest : List Char) : ∃ blanks, IsBlankText blanks ∧
      pieces (· == '\n') (line ++ ending ++ rest) = (line ++ blanks) :: pieces (· == '\n') rest := by
  rcases isEnd with rfl | rfl
  · refine ⟨[], List.forall_mem_nil _, ?_⟩
    rw [List.append_assoc, List.append_nil]
    exact pieces_line_feed noFeed rest
  · refine ⟨['\r'], isBlankText_return, ?_⟩
    have noFeed' : '\n' ∉ line ++ ['\r'] := by simp [noFeed]
    have whole : line ++ ['\r', '\n'] ++ rest = line ++ ['\r'] ++ '\n' :: rest := by simp
    rw [whole]
    exact pieces_line_feed noFeed' rest

theorem readLines_line_end (cursor : Cursor) (number : Nat) {line ending : List Char}
    (noFeed : '\n' ∉ line) (isEnd : IsLineEnd ending) (rest : List Char) :
    cursor.readLines number (pieces (· == '\n') (line ++ ending ++ rest)) =
      (cursor.readLine number line).bind fun next =>
        next.readLines (number + 1) (pieces (· == '\n') rest) := by
  obtain ⟨blanks, blank, split⟩ := exists_pieces_end noFeed isEnd rest
  rw [split, readLines_cons, readLine_padded cursor number blank]

theorem IsPadding.append {line blanks : List Char} (padding : IsPadding blanks)
    (noFeed : '\n' ∉ line) : '\n' ∉ line ++ blanks := by
  rw [List.mem_append, not_or]
  exact ⟨noFeed, padding.2⟩

/-- Other spacing changes the numbers of the lines, each by those put in front of it. -/
theorem readLines_respaced {counts : List Nat} {text text' : List Char}
    (respaced : Respaced counts text text') (cursor : Cursor) (number : Nat → Nat) (line line' : Nat)
    (shifts : ∀ offset, number (line + offset) = line' + offset + (counts.take (offset + 1)).sum) :
    cursor.readLines line' (pieces (· == '\n') text') =
      (cursor.readLines line (pieces (· == '\n') text)).mapError (·.renumber number) := by
  induction respaced generalizing cursor line line' with
  | @last raw blanks noFeed padding =>
    obtain rfl : number line = line' := shifts 0
    rw [pieces_of_forall (beq_false_of_not_mem noFeed), pieces_of_forall (beq_false_of_not_mem (padding.append noFeed)),
      readLines_cons, readLines_cons, readLine_padded cursor _ padding.1, readLine_renumber]
    cases cursor.readLine line raw <;> rfl
  | @line raw blanks ending ending' text text' counts noFeed padding isEnd isEnd' _ ih =>
    obtain rfl : number line = line' := by simpa using shifts 0
    rw [readLines_line_end cursor _ noFeed isEnd,
      readLines_line_end cursor _ (padding.append noFeed) isEnd',
      readLine_padded cursor _ padding.1, readLine_renumber]
    cases cursor.readLine line raw with
    | error error => rfl
    | ok next =>
      refine ih next (line + 1) (number line + 1) fun offset => ?_
      have shift := shifts (offset + 1)
      rw [List.take_succ_cons, List.sum_cons] at shift
      rw [Nat.add_right_comm, Nat.add_assoc line, shift]
      omega
  | @inserted raw ending text text' count counts noFeed leftOut isEnd _ ih =>
    rw [readLines_line_end cursor _ noFeed isEnd, readLine_leftOut line' leftOut]
    refine ih cursor line (line' + 1) fun offset => ?_
    rw [shifts, List.take_succ_cons, List.take_succ_cons, List.sum_cons, List.sum_cons]
    omega

/-- Reading INI text does not depend on its spacing. With other spacing the store is the same, and so is
the error, but for the number of its line: it has grown by the lines put in front of that line. -/
theorem ofIni_respaced {counts : List Nat} {text text' : String}
    (respaced : Respaced counts text.toList text'.toList) :
    Store.ofIni text' =
      (Store.ofIni text).mapError (·.renumber fun line => line + (counts.take line).sum) := by
  have read := readLines_respaced respaced .start (fun line => line + (counts.take line).sum) 1 1
    fun offset => by rw [Nat.add_comm 1 offset]
  rw [Store.ofIni, Store.ofIni, readLines_lines, readLines_lines, read]
  cases Cursor.start.readLines 1 (pieces (· == '\n') text.toList) <;> rfl

/-- Three lines put in front of a key that is listed twice, two of them inside the value above it. -/
theorem ofIni_respaced_repeatedKey :
    Respaced [0, 1, 2, 0] "[A]\nk = 1\n  2\nK = 3".toList
        "[A] \r\n\nk = 1\n  # note\n\t;\r\n  2\t\nK = 3 ".toList ∧
      Store.ofIni "[A]\nk = 1\n  2\nK = 3" = .error (.repeatedKey 4 "A" "k") ∧
      Store.ofIni "[A] \r\n\nk = 1\n  # note\n\t;\r\n  2\t\nK = 3 " =
        .error (.repeatedKey 7 "A" "k") := by
  have respaced : Respaced [0, 1, 2, 0]
      ("[A]".toList ++ ['\n'] ++ ("k = 1".toList ++ ['\n'] ++ ("  2".toList ++ ['\n'] ++
        "K = 3".toList)))
      ("[A]".toList ++ [' '] ++ ['\r', '\n'] ++ ("".toList ++ ['\n'] ++ ("k = 1".toList ++ [] ++ ['\n'] ++
        ("  # note".toList ++ ['\n'] ++ ("\t;".toList ++ ['\r', '\n'] ++
          ("  2".toList ++ ['\t'] ++ ['\n'] ++ ("K = 3".toList ++ [' ']))))))) := by
    refine .line (by decide) (by decide) (.inl rfl) (.inr rfl) ?_
    refine .inserted (by decide) (by decide) (.inl rfl) ?_
    refine .line (by decide) (by decide) (.inl rfl) (.inl rfl) ?_
    refine .inserted (by decide) (by decide) (.inl rfl) ?_
    refine .inserted (by decide) (by decide) (.inr rfl) ?_
    refine .line (by decide) (by decide) (.inl rfl) (.inl rfl) ?_
    exact .last (by decide) (by decide)
  have read : Store.ofIni "[A]\nk = 1\n  2\nK = 3" = .error (.repeatedKey 4 "A" "k") := by
    decide +kernel
  refine ⟨respaced, read, ?_⟩
  rw [@ofIni_respaced _ "[A]\nk = 1\n  2\nK = 3" _ respaced, read]
  rfl

end Ini

end Replay
