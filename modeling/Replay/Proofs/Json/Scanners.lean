import Replay.Proofs.Json.Sound
import Replay.Proofs.Text.Trim

/-!
What a scanner takes in. A sound token holds no line feed and does not end with white space, and it is
scanned alike in front of every text that goes on as its own does, or with white space.
-/

namespace Replay.Json

open Text (isBlank isDigit_of_isBlank)

def isBlankUnit (unit : Option Char) : Bool := unit.any isBlank

def AtGap (source : Source) : Prop := ∀ unit ∈ source.head?, isBlankUnit unit = true

def Resumes (source other : Source) : Prop := other.head? = source.head? ∨ AtGap other

/-- No line feed inside, and no white space at the end. -/
def Solid (used : Source) : Prop :=
  some '\n' ∉ used ∧ ∀ unit ∈ used.getLast?, isBlankUnit unit = false

/-- From the source to the rest the scanner takes in something solid, and it would take in the same in
front of any other source that goes on like the rest, or with a gap. -/
def Takes (reads : Source → Source → Prop) (source rest : Source) : Prop :=
  ∃ used, source = used ++ rest ∧ Solid used ∧ ∀ other, Resumes rest other → reads (used ++ other) other

theorem Resumes.append {source other : Source} (resumes : Resumes source other) (used : Source) :
    Resumes (used ++ source) (used ++ other) := by
  cases used with
  | nil => exact resumes
  | cons unit used => exact .inl rfl

theorem Resumes.next {source other : Source} (resumes : Resumes source other) {holds : Char → Prop}
    (blank : ∀ c, isBlank c = true → holds c) (next : ∀ c, source.head? = some (some c) → holds c) :
    ∀ c, other.head? = some (some c) → holds c := by
  intro c first
  rcases resumes with same | gap
  · exact next c (same.symm.trans first)
  · exact blank c (gap (some c) first)

theorem solid_nil : Solid [] := by simp [Solid]

theorem solid_append {front back : Source} (first : Solid front) (second : Solid back) :
    Solid (front ++ back) := by
  constructor
  · intro member
    exact (List.mem_append.mp member).elim first.1 second.1
  · by_cases empty : back = []
    · rw [empty, List.append_nil]
      exact first.2
    · rw [List.getLast?_append_of_ne_nil front empty]
      exact second.2

theorem solid_of_forall {used : Source} (plain : ∀ unit ∈ used, isBlankUnit unit = false) :
    Solid used := by
  constructor
  · intro member
    exact absurd (plain _ member) (by decide)
  · intro unit last
    exact plain unit (List.mem_of_getLast? last)

section Takes

variable {reads : Source → Source → Prop} {source middle rest : Source}

theorem Takes.nothing (again : ∀ other, Resumes source other → reads other other) :
    Takes reads source source := ⟨[], rfl, solid_nil, again⟩

theorem Takes.unit {unit : Option Char} (plain : isBlankUnit unit = false)
    (again : ∀ other, Resumes source other → reads (unit :: other) other) :
    Takes reads (unit :: source) source :=
  ⟨[unit], rfl, solid_of_forall (List.forall_mem_singleton.mpr plain), again⟩

theorem Takes.andThen {first second : Source → Source → Prop} (start : Takes first source middle)
    (more : Takes second middle rest)
    (both : ∀ front between back, first front between → second between back →
      Resumes middle between → reads front back) :
    Takes reads source rest := by
  obtain ⟨used, rfl, solid, again⟩ := start
  obtain ⟨further, rfl, solidToo, againToo⟩ := more
  refine ⟨used ++ further, (List.append_assoc _ _ _).symm, solid_append solid solidToo, ?_⟩
  intro other resumes
  rw [List.append_assoc]
  have goesOn := resumes.append further
  exact both _ _ _ (again _ goesOn) (againToo other resumes) goesOn

theorem Takes.behind {more : Source → Source → Prop} {unit : Option Char}
    (plain : isBlankUnit unit = false) (takes : Takes more source rest)
    (both : ∀ front back, more front back → reads (unit :: front) back) :
    Takes reads (unit :: source) rest := by
  have first : Takes (fun front back => front = unit :: back) (unit :: source) source :=
    Takes.unit plain fun _ _ => rfl
  apply first.andThen takes
  rintro front between back rfl again -
  exact both between back again

theorem Takes.imp {others : Source → Source → Prop} (takes : Takes reads source rest)
    (weaker : ∀ front back, reads front back → others front back) : Takes others source rest := by
  obtain ⟨used, split, solid, again⟩ := takes
  exact ⟨used, split, solid, fun other resumes => weaker _ _ (again other resumes)⟩

end Takes

/-! Numbers -/

theorem ne_of_isBlank {c d : Char} (blank : isBlank c = true) (plain : isBlank d = false) : c ≠ d := by
  rintro rfl
  rw [blank] at plain
  cases plain

theorem isBlankUnit_of_isDigit {c : Char} (digit : c.isDigit = true) : isBlankUnit (some c) = false :=
  Bool.eq_false_iff.mpr fun blank => Bool.eq_false_iff.mp (isDigit_of_isBlank blank) digit

theorem spanDigits_eq_nil {source : Source}
    (plain : ∀ c, source.head? = some (some c) → c.isDigit = false) :
    spanDigits source = ([], source) := by
  match source with
  | [] => rfl
  | none :: rest => rfl
  | some c :: rest => simp [spanDigits, plain c rfl]

theorem takes_spanDigits {source rest : Source} {digits : List Char}
    (spanned : spanDigits source = (digits, rest)) :
    Takes (fun front back => spanDigits front = (digits, back)) source rest := by
  have stops : ∀ source, (∀ c, source.head? = some (some c) → c.isDigit = false) →
      Takes (fun front back => spanDigits front = ([], back)) source source := by
    intro source plain
    apply Takes.nothing
    intro other resumes
    exact spanDigits_eq_nil (resumes.next (fun _ => isDigit_of_isBlank) plain)
  induction source generalizing digits with
  | nil =>
    obtain ⟨rfl, rfl⟩ := Prod.mk.inj spanned
    exact stops [] nofun
  | cons unit tail ih =>
    match unit with
    | none =>
      obtain ⟨rfl, rfl⟩ := Prod.mk.inj spanned
      exact stops _ nofun
    | some c =>
      by_cases digit : c.isDigit = true
      · obtain ⟨more, after, found⟩ : ∃ more after, spanDigits tail = (more, after) := ⟨_, _, rfl⟩
        simp only [spanDigits, digit, ↓reduceIte, found, Prod.mk.injEq] at spanned
        obtain ⟨rfl, rfl⟩ := spanned
        apply (ih found).behind (isBlankUnit_of_isDigit digit)
        intro front back again
        simp only [spanDigits, digit, ↓reduceIte, again]
      · have same : spanDigits (some c :: tail) = ([], some c :: tail) := by simp [spanDigits, digit]
        obtain ⟨rfl, rfl⟩ := Prod.mk.inj (same.symm.trans spanned)
        apply stops
        intro d first
        obtain rfl := Option.some.inj (Option.some.inj first)
        exact Bool.eq_false_iff.mpr digit

def someDigits (source : Source) : Except Fault (List Char × Source) :=
  match spanDigits source with
  | ([], rest) => .error (missingDigit rest)
  | (digits, rest) => .ok (digits, rest)

theorem takes_someDigits {source rest : Source} {digits : List Char}
    (found : someDigits source = .ok (digits, rest)) :
    Takes (fun front back => someDigits front = .ok (digits, back)) source rest := by
  obtain ⟨span, after, spanned⟩ : ∃ span after, spanDigits source = (span, after) := ⟨_, _, rfl⟩
  rw [someDigits, spanned] at found
  cases span with
  | nil => cases found
  | cons c span =>
    obtain ⟨rfl, rfl⟩ := Prod.mk.inj (Except.ok.inj found)
    apply (takes_spanDigits spanned).imp
    intro front back again
    rw [someDigits, again]

theorem scanFraction_point (source : Source) :
    scanFraction (some '.' :: source) =
      (someDigits source).map fun found => (some found.1, found.2) := by
  rw [scanFraction, someDigits]
  rcases spanDigits source with ⟨_ | _, rest⟩ <;> rfl

theorem scanFraction_none {source : Source} (plain : ∀ c, source.head? = some (some c) → c ≠ '.') :
    scanFraction source = .ok (none, source) := by
  rw [scanFraction.eq_def]
  split
  · exact absurd rfl (plain '.' rfl)
  · rfl

theorem takes_scanFraction {source rest : Source} {fraction : Option (List Char)}
    (found : scanFraction source = .ok (fraction, rest)) :
    Takes (fun front back => scanFraction front = .ok (fraction, back)) source rest := by
  by_cases point : source.head? = some (some '.')
  · obtain ⟨tail, rfl⟩ := List.head?_eq_some_iff.mp point
    rw [scanFraction_point] at found
    rcases digits : someDigits tail with fault | ⟨span, after⟩
    · rw [digits] at found
      cases found
    · rw [digits] at found
      obtain ⟨rfl, rfl⟩ := Prod.mk.inj (Except.ok.inj found)
      apply (takes_someDigits digits).behind (by decide)
      intro front back again
      rw [scanFraction_point, again]
      rfl
  · have plain : ∀ c, source.head? = some (some c) → c ≠ '.' := by
      rintro c first rfl
      exact point first
    obtain ⟨rfl, rfl⟩ := Prod.mk.inj (Except.ok.inj ((scanFraction_none plain).symm.trans found))
    apply Takes.nothing
    intro other resumes
    exact scanFraction_none (resumes.next (fun c blank => ne_of_isBlank blank (by decide)) plain)

def exponentSign (source : Source) : Bool × Source :=
  match source with
  | some '+' :: rest => (false, rest)
  | some '-' :: rest => (true, rest)
  | _ => (false, source)

theorem exponentSign_bare {source : Source}
    (unsigned : ∀ c, source.head? = some (some c) → c ≠ '+' ∧ c ≠ '-') :
    exponentSign source = (false, source) := by
  rw [exponentSign.eq_def]
  split
  · exact absurd rfl (unsigned '+' rfl).1
  · exact absurd rfl (unsigned '-' rfl).2
  · rfl

theorem takes_exponentSign {source rest : Source} {negative : Bool}
    (found : exponentSign source = (negative, rest)) :
    Takes (fun front back => exponentSign front = (negative, back)) source rest := by
  rw [exponentSign.eq_def] at found
  split at found
  · obtain ⟨rfl, rfl⟩ := Prod.mk.inj found
    exact Takes.unit (by decide) fun _ _ => rfl
  · obtain ⟨rfl, rfl⟩ := Prod.mk.inj found
    exact Takes.unit (by decide) fun _ _ => rfl
  · next noPlus noMinus =>
    obtain ⟨rfl, rfl⟩ := Prod.mk.inj found
    have unsigned : ∀ c, source.head? = some (some c) → c ≠ '+' ∧ c ≠ '-' := by
      intro c first
      obtain ⟨tail, rfl⟩ := List.head?_eq_some_iff.mp first
      constructor
      · rintro rfl
        exact noPlus tail rfl
      · rintro rfl
        exact noMinus tail rfl
    apply Takes.nothing
    intro other resumes
    refine exponentSign_bare (resumes.next ?_ unsigned)
    exact fun c blank => ⟨ne_of_isBlank blank (by decide), ne_of_isBlank blank (by decide)⟩

theorem scanExponent_mark {mark : Char} (marks : mark = 'e' ∨ mark = 'E') (source : Source) :
    scanExponent (some mark :: source) = (someDigits (exponentSign source).2).map fun found =>
      (some ((exponentSign source).1, found.1), found.2) := by
  have unfolded : scanExponent (some mark :: source) =
      match spanDigits (exponentSign source).2 with
      | ([], rest) => Except.error (missingDigit rest)
      | (digits, rest) => Except.ok (some ((exponentSign source).1, digits), rest) := by
    simp only [scanExponent, marks, ↓reduceIte]
    rfl
  rw [unfolded, someDigits]
  rcases spanDigits (exponentSign source).2 with ⟨_ | _, rest⟩ <;> rfl

theorem scanExponent_none {source : Source}
    (plain : ∀ c, source.head? = some (some c) → ¬ (c = 'e' ∨ c = 'E')) :
    scanExponent source = .ok (none, source) := by
  match source with
  | [] => rfl
  | none :: rest => rfl
  | some c :: rest => simp [scanExponent, plain c rfl]

theorem takes_scanExponent {source rest : Source} {exponent : Option (Bool × List Char)}
    (found : scanExponent source = .ok (exponent, rest)) :
    Takes (fun front back => scanExponent front = .ok (exponent, back)) source rest := by
  by_cases marked : ∃ mark tail, source = some mark :: tail ∧ (mark = 'e' ∨ mark = 'E')
  · obtain ⟨mark, tail, rfl, marks⟩ := marked
    obtain ⟨negative, digitsFrom, signed⟩ :
        ∃ negative digitsFrom, exponentSign tail = (negative, digitsFrom) := ⟨_, _, rfl⟩
    rw [scanExponent_mark marks, signed] at found
    rcases digits : someDigits digitsFrom with fault | ⟨span, after⟩
    · rw [digits] at found
      cases found
    · rw [digits] at found
      obtain ⟨rfl, rfl⟩ := Prod.mk.inj (Except.ok.inj found)
      have plainMark : isBlankUnit (some mark) = false := by rcases marks with rfl | rfl <;> decide
      have others : Takes (fun front back => ∃ between, exponentSign front = (negative, between) ∧
          someDigits between = .ok (span, back)) tail after := by
        apply (takes_exponentSign signed).andThen (takes_someDigits digits)
        exact fun front between back sign again _ => ⟨between, sign, again⟩
      apply others.behind plainMark
      rintro front back ⟨between, sign, again⟩
      rw [scanExponent_mark marks, sign, again]
      rfl
  · have plain : ∀ c, source.head? = some (some c) → ¬ (c = 'e' ∨ c = 'E') := by
      intro c first marks
      obtain ⟨tail, rfl⟩ := List.head?_eq_some_iff.mp first
      exact marked ⟨c, tail, rfl, marks⟩
    obtain ⟨rfl, rfl⟩ := Prod.mk.inj (Except.ok.inj ((scanExponent_none plain).symm.trans found))
    apply Takes.nothing
    intro other resumes
    refine scanExponent_none (resumes.next ?_ plain)
    rintro c blank (rfl | rfl)
    · exact absurd blank (by decide)
    · exact absurd blank (by decide)

def IsWhole (whole : List Char) : Prop := whole ≠ [] ∧ ∀ c more, whole ≠ '0' :: c :: more

theorem scanNumber_eq_ok {negative : Bool} {source rest : Source} {literal : NumberLiteral} :
    scanNumber negative source = .ok (literal, rest) ↔
      ∃ afterWhole, spanDigits source = (literal.whole, afterWhole) ∧ IsWhole literal.whole ∧
      ∃ afterFraction, scanFraction afterWhole = .ok (literal.fraction, afterFraction) ∧
        scanExponent afterFraction = .ok (literal.exponent, rest) ∧ literal.negative = negative := by
  rw [scanNumber.eq_def]
  constructor
  · intro found
    split at found
    · cases found
    · cases found
    · next whole afterWhole filled leading spanned =>
      split at found
      · cases found
      · next fraction afterFraction fractional =>
        split at found
        · cases found
        · next exponent after exponential =>
          obtain ⟨rfl, rfl⟩ := Prod.mk.inj (Except.ok.inj found)
          exact ⟨afterWhole, spanned, ⟨filled, leading⟩, afterFraction, fractional, exponential, rfl⟩
  · rintro ⟨afterWhole, spanned, ⟨filled, leading⟩, afterFraction, fractional, exponential, rfl⟩
    rw [spanned]
    split
    · next empty => exact absurd (Prod.mk.inj empty).1 filled
    · next zero => exact absurd (Prod.mk.inj zero).1 (leading _ _)
    · next same =>
      obtain ⟨rfl, rfl⟩ := Prod.mk.inj same
      rw [fractional]
      dsimp only
      rw [exponential]

theorem takes_scanNumber {negative : Bool} {source rest : Source} {literal : NumberLiteral}
    (found : scanNumber negative source = .ok (literal, rest)) :
    Takes (fun front back => scanNumber negative front = .ok (literal, back)) source rest := by
  obtain ⟨afterWhole, spanned, whole, afterFraction, fractional, exponential, sign⟩ :=
    scanNumber_eq_ok.mp found
  have decimals : Takes (fun front back => ∃ between,
      scanFraction front = .ok (literal.fraction, between) ∧
        scanExponent between = .ok (literal.exponent, back)) afterWhole rest := by
    apply (takes_scanFraction fractional).andThen (takes_scanExponent exponential)
    exact fun front between back first second _ => ⟨between, first, second⟩
  apply (takes_spanDigits spanned).andThen decimals
  rintro front between back first ⟨afterFraction, second, third⟩ -
  exact scanNumber_eq_ok.mpr ⟨between, first, whole, afterFraction, second, third, sign⟩

theorem takes_numberToken {negative : Bool} {source rest : Source} {token : Token}
    (sound : token.sound = true) (found : numberToken negative source = (token, rest)) :
    Takes (fun front back => numberToken negative front = (token, back)) source rest := by
  rw [numberToken] at found
  split at found
  · next literal after scanned =>
    obtain ⟨rfl, rfl⟩ := Prod.mk.inj found
    apply (takes_scanNumber scanned).imp
    intro front back again
    rw [numberToken, again]
  · obtain ⟨rfl, rfl⟩ := Prod.mk.inj found
    cases sound

/-! Words -/

theorem takes_scanWord {word : List Char} {source rest : Source} {token result : Token}
    (plain : word.any isBlank = false) (sound : result.sound = true)
    (found : scanWord token word source = (result, rest)) :
    Takes (fun front back => scanWord token word front = (result, back)) source rest := by
  induction word generalizing source with
  | nil =>
    obtain ⟨rfl, rfl⟩ := Prod.mk.inj found
    exact Takes.nothing fun _ _ => rfl
  | cons c word ih =>
    obtain ⟨first, others⟩ := Bool.or_eq_false_iff.mp plain
    match source with
    | [] =>
      obtain ⟨rfl, -⟩ := Prod.mk.inj found
      cases sound
    | unit :: tail =>
      by_cases same : unit = some c
      · subst same
        rw [scanWord, if_pos rfl] at found
        have letter : isBlankUnit (some c) = false := first
        apply (ih others found).behind letter
        intro front back again
        rw [scanWord, if_pos rfl, again]
      · rw [scanWord, if_neg same] at found
        obtain ⟨rfl, -⟩ := Prod.mk.inj found
        cases sound

/-! Texts -/

theorem hexValue?_of_isBlank {c : Char} (blank : isBlank c = true) : Numeral.hexValue? c = none := by
  have plain := isDigit_of_isBlank blank
  simp only [isBlank, Bool.or_eq_true, Bool.and_eq_true, decide_eq_true_eq, beq_iff_eq] at blank
  have small : ¬ ('a' ≤ c ∧ c ≤ 'f') := by
    intro between
    simp only [Char.le_def, UInt32.le_iff_toNat_le] at between
    change 97 ≤ c.toNat ∧ c.toNat ≤ 102 at between
    omega
  have capital : ¬ ('A' ≤ c ∧ c ≤ 'F') := by
    intro between
    simp only [Char.le_def, UInt32.le_iff_toNat_le] at between
    change 65 ≤ c.toNat ∧ c.toNat ≤ 70 at between
    omega
  simp only [Numeral.hexValue?, plain, small, capital, Bool.false_eq_true, ↓reduceIte]

theorem isBlankUnit_of_hexUnit? {unit : Option Char} {value : Nat} (digit : hexUnit? unit = some value) :
    isBlankUnit unit = false := by
  refine Bool.eq_false_iff.mpr fun blank => ?_
  match unit with
  | none => cases blank
  | some c =>
    have none : hexUnit? (some c) = none := hexValue?_of_isBlank blank
    rw [none] at digit
    cases digit

theorem takes_scanHex {source rest : Source} {code : Nat} (found : scanHex source = .ok (code, rest)) :
    Takes (fun front back => scanHex front = .ok (code, back)) source rest := by
  rw [scanHex.eq_def] at found
  split at found
  · next a b c d after =>
    split at found
    · next first second third fourth one two three four =>
      obtain ⟨rfl, rfl⟩ := Prod.mk.inj (Except.ok.inj found)
      refine ⟨[a, b, c, d], rfl, solid_of_forall ?_, fun other _ => ?_⟩
      · simp [isBlankUnit_of_hexUnit? one, isBlankUnit_of_hexUnit? two, isBlankUnit_of_hexUnit? three,
          isBlankUnit_of_hexUnit? four]
      · simp [scanHex, one, two, three, four]
    · cases found
  · cases found

theorem takes_scanLowHalf {high : Nat} {source rest : Source} {c : Char}
    (found : scanLowHalf high source = .ok (c, rest)) :
    Takes (fun front back => scanLowHalf high front = .ok (c, back)) source rest := by
  rw [scanLowHalf.eq_def] at found
  split at found
  · cases found
  · cases found
  · next tail =>
    split at found
    · cases found
    · next low after digits =>
      split at found
      · next within =>
        obtain ⟨rfl, rfl⟩ := Prod.mk.inj (Except.ok.inj found)
        have marked : Takes (fun front back => ∃ digits, front = some 'u' :: digits ∧
            scanHex digits = .ok (low, back)) (some 'u' :: tail) after :=
          (takes_scanHex digits).behind (by decide) fun front back again => ⟨front, rfl, again⟩
        apply marked.behind (by decide)
        rintro _ back ⟨front, rfl, again⟩
        rw [scanLowHalf, again]
        exact if_pos within
      · cases found
  · cases found

theorem takes_scanEscape_code {source rest : Source} {c : Char}
    (found : scanEscape (some 'u' :: source) = .ok (.ok c, rest)) :
    Takes (fun front back => scanEscape front = .ok (.ok c, back)) (some 'u' :: source) rest := by
  rw [scanEscape] at found
  split at found
  · cases found
  next code after digits =>
  split at found
  · cases found
  next notLow =>
  split at found
  · next high =>
    split at found
    · next d final half =>
      obtain ⟨same, rfl⟩ := Prod.mk.inj (Except.ok.inj found)
      obtain rfl := Except.ok.inj same
      have pair : Takes (fun front back => ∃ between, scanHex front = .ok (code, between) ∧
          scanLowHalf code between = .ok (d, back)) source final := by
        apply (takes_scanHex digits).andThen (takes_scanLowHalf half)
        exact fun front between back first second _ => ⟨between, first, second⟩
      apply pair.behind (by decide)
      rintro front back ⟨between, first, second⟩
      simp only [scanEscape, first, second, notLow, high, and_self, ↓reduceIte]
    · cases found
  · next notHigh =>
    obtain ⟨same, rfl⟩ := Prod.mk.inj (Except.ok.inj found)
    obtain rfl := Except.ok.inj same
    apply (takes_scanHex digits).behind (by decide)
    intro front back again
    simp only [scanEscape, again, notLow, notHigh, ↓reduceIte]

theorem takes_scanEscape {source rest : Source} {c : Char}
    (found : scanEscape source = .ok (.ok c, rest)) :
    Takes (fun front back => scanEscape front = .ok (.ok c, back)) source rest := by
  rw [scanEscape.eq_def] at found
  split at found
  case h_1 => cases found
  case h_11 => cases found
  case h_10 tail => exact takes_scanEscape_code found
  all_goals
    obtain ⟨same, rfl⟩ := Prod.mk.inj (Except.ok.inj found)
    obtain rfl := Except.ok.inj same
    exact Takes.unit (by decide) fun _ _ => rfl

theorem sound_breakText (units : Except ReadError (List (Option Char))) (error : ReadError) :
    (breakText units error).sound = false := by
  cases units <;> rfl

theorem scanText_escape {units : Except ReadError (List (Option Char))} {source after : Source}
    {unit : Except ReadError Char} (found : scanEscape source = .ok (unit, after)) :
    scanText units (some '\\' :: source) = scanText (pushUnit units (unit.map some)) after := by
  rw [scanText]
  split
  · next failed =>
    rw [found] at failed
    cases failed
  · next same =>
    rw [found] at same
    obtain ⟨rfl, rfl⟩ := Prod.mk.inj (Except.ok.inj same)
    rfl

theorem not_sound_scanText (error : ReadError) (source : Source) :
    (scanText (.error error) source).1.sound = false := by
  obtain ⟨units, failed⟩ : ∃ units : Except ReadError (List (Option Char)), units = .error error :=
    ⟨_, rfl⟩
  rw [← failed]
  fun_induction scanText units source with
  | case1 => exact sound_breakText _ _
  | case2 units rest ih => exact ih (by rw [failed]; rfl)
  | case3 units rest => rw [failed]; rfl
  | case4 => exact sound_breakText _ _
  | case5 units rest unit after found ih => exact ih (by rw [failed]; rfl)
  | case6 => exact sound_breakText _ _
  | case7 units c rest _ _ _ ih => exact ih (by rw [failed]; rfl)

/-- A sound text ends at its closing quote, whatever follows. Up to there it has no line feed. -/
theorem exists_of_scanText {units : Except ReadError (List (Option Char))} {source rest : Source}
    {token : Token} (sound : token.sound = true) (found : scanText units source = (token, rest)) :
    ∃ used, source = used ++ some '"' :: rest ∧ some '\n' ∉ used ∧
      ∀ other, scanText units (used ++ some '"' :: other) = (token, other) := by
  fun_induction scanText units source with
  | case1 units =>
    obtain ⟨rfl, -⟩ := Prod.mk.inj found
    exact absurd sound (Bool.eq_false_iff.mp (sound_breakText _ _))
  | case2 units source ih =>
    obtain ⟨used, rfl, noFeed, again⟩ := ih found
    refine ⟨none :: used, rfl, by simp [noFeed], fun other => ?_⟩
    rw [List.cons_append, scanText]
    exact again other
  | case3 units source =>
    obtain ⟨rfl, rfl⟩ := Prod.mk.inj found
    refine ⟨[], rfl, List.not_mem_nil, fun other => ?_⟩
    cases units <;> simp [scanText]
  | case4 units source error failed =>
    obtain ⟨rfl, -⟩ := Prod.mk.inj found
    exact absurd sound (Bool.eq_false_iff.mp (sound_breakText _ _))
  | case5 units source unit after escaped ih =>
    obtain ⟨used, rfl, noFeed, again⟩ := ih found
    cases unit with
    | error error =>
      -- an escape that is no character spoils what follows it, down to the quote
      obtain ⟨first, failed⟩ :
          ∃ first, pushUnit units (Except.map some (.error error)) = .error first := by
        cases units
        · exact ⟨_, rfl⟩
        · exact ⟨_, rfl⟩
      have unsound := not_sound_scanText first (used ++ some '"' :: rest)
      rw [← failed, found] at unsound
      exact absurd sound (Bool.eq_false_iff.mp unsound)
    | ok c =>
      obtain ⟨escape, rfl, solid, same⟩ := takes_scanEscape escaped
      refine ⟨some '\\' :: (escape ++ used), by simp, ?_, fun other => ?_⟩
      · simp [solid.1, noFeed]
      · have quoted : Resumes (some '"' :: rest) (some '"' :: other) := .inl rfl
        rw [List.cons_append, List.append_assoc, scanText_escape (same _ (quoted.append used))]
        exact again other
  | case6 =>
    obtain ⟨rfl, -⟩ := Prod.mk.inj found
    exact absurd sound (Bool.eq_false_iff.mp (sound_breakText _ _))
  | case7 units c source notQuote notEscape printable ih =>
    obtain ⟨used, rfl, noFeed, again⟩ := ih found
    refine ⟨some c :: used, rfl, ?_, fun other => ?_⟩
    · rintro (_ | ⟨_, later⟩)
      · exact printable (by decide)
      · exact noFeed later
    · rw [List.cons_append, scanText, if_neg printable]
      · exact again other
      · exact notQuote
      · exact notEscape

theorem takes_scanText {units : Except ReadError (List (Option Char))} {source rest : Source}
    {token : Token} (sound : token.sound = true) (found : scanText units source = (token, rest)) :
    Takes (fun front back => scanText units front = (token, back)) source rest := by
  obtain ⟨used, rfl, noFeed, again⟩ := exists_of_scanText sound found
  refine ⟨used ++ [some '"'], by simp, ⟨by simp [noFeed], ?_⟩, fun other _ => ?_⟩
  · simp [isBlankUnit, show isBlank '"' = false by decide]
  · rw [List.append_assoc]
    exact again other

/-! Tokens -/

def firstToken : Source → Token × Source
  | some c :: rest => scanToken c rest
  | _ => (.broken false (.same .expectedValue), [])

theorem firstToken_of_isDigit {c : Char} (digit : c.isDigit = true) (rest : Source) :
    firstToken (some c :: rest) = numberToken false (some c :: rest) := by
  rw [firstToken, scanToken.eq_def]
  split
  case h_12 => exact if_pos digit
  all_goals exact absurd digit (by decide)

theorem firstToken_blank {c : Char} (blank : isBlank c = true) (rest : Source) :
    (firstToken (some c :: rest)).1.sound = false := by
  rw [firstToken, scanToken.eq_def]
  split
  case h_12 =>
    rw [if_neg (Bool.eq_false_iff.mp (isDigit_of_isBlank blank))]
    rfl
  all_goals exact absurd blank (by decide)

theorem takes_firstToken_of_isDigit {c : Char} (digit : c.isDigit = true) {tail rest : Source}
    {token : Token} (sound : token.sound = true)
    (found : numberToken false (some c :: tail) = (token, rest)) :
    Takes (fun front back => firstToken front = (token, back)) (some c :: tail) rest := by
  obtain ⟨used, split, solid, again⟩ := takes_numberToken sound found
  have shorter : rest.length < (some c :: tail).length := by
    have := length_numberToken false (List.cons_ne_nil (some c) tail)
    rwa [found] at this
  cases used with
  | nil =>
    rw [split] at shorter
    exact absurd shorter (Nat.lt_irrefl _)
  | cons unit used =>
    obtain ⟨rfl, -⟩ := List.cons.inj split
    refine ⟨_, split, solid, fun other resumes => ?_⟩
    exact (firstToken_of_isDigit digit _).trans (again other resumes)

theorem takes_firstToken {source rest : Source} {token : Token} (sound : token.sound = true)
    (found : firstToken source = (token, rest)) :
    Takes (fun front back => firstToken front = (token, back)) source rest := by
  match source with
  | [] =>
    obtain ⟨rfl, -⟩ := Prod.mk.inj found
    cases sound
  | none :: tail =>
    obtain ⟨rfl, -⟩ := Prod.mk.inj found
    cases sound
  | some c :: tail =>
    rw [firstToken, scanToken.eq_def] at found
    split at found
    case h_7 =>
      apply (takes_scanText sound found).behind (by decide)
      intro front back again
      rwa [firstToken, scanToken]
    case h_8 =>
      apply (takes_scanWord (by decide) sound found).behind (by decide)
      intro front back again
      rwa [firstToken, scanToken]
    case h_9 =>
      apply (takes_scanWord (by decide) sound found).behind (by decide)
      intro front back again
      rwa [firstToken, scanToken]
    case h_10 =>
      apply (takes_scanWord (by decide) sound found).behind (by decide)
      intro front back again
      rwa [firstToken, scanToken]
    case h_11 =>
      apply (takes_numberToken sound found).behind (by decide)
      intro front back again
      rwa [firstToken, scanToken]
    case h_12 =>
      split at found
      · next digit => exact takes_firstToken_of_isDigit digit sound found
      · obtain ⟨rfl, -⟩ := Prod.mk.inj found
        cases sound
    all_goals
      obtain ⟨rfl, rfl⟩ := Prod.mk.inj found
      exact Takes.unit (by decide) fun _ _ => rfl

end Replay.Json
