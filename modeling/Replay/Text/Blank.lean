namespace Replay.Text

/-- White space in the sense of Unicode. -/
def isBlank (c : Char) : Bool :=
  let code := c.toNat
  (0x09 ≤ code && code ≤ 0x0D) || code == 0x20 || code == 0x85 || code == 0xA0 || code == 0x1680 ||
    (0x2000 ≤ code && code ≤ 0x200A) || code == 0x2028 || code == 0x2029 || code == 0x202F ||
    code == 0x205F || code == 0x3000

theorem isDigit_of_isBlank {c : Char} (blank : isBlank c = true) : c.isDigit = false := by
  simp only [isBlank, Bool.or_eq_true, Bool.and_eq_true, decide_eq_true_eq, beq_iff_eq] at blank
  refine Bool.eq_false_iff.mpr fun digit => ?_
  simp only [Char.isDigit, Bool.and_eq_true, decide_eq_true_eq, ge_iff_le, UInt32.le_iff_toNat_le]
    at digit
  change 48 ≤ c.toNat ∧ c.toNat ≤ 57 at digit
  omega

def trimStart (text : List Char) : List Char := text.dropWhile isBlank

def trimEnd (text : List Char) : List Char := (text.reverse.dropWhile isBlank).reverse

def trim (text : List Char) : List Char := trimEnd (trimStart text)

def startsBlank : List Char → Bool
  | [] => false
  | c :: _ => isBlank c

@[simp] theorem trim_nil : trim [] = [] := rfl

theorem dropWhile_eq_self {p : Char → Bool} {text : List Char}
    (first : ∀ c ∈ text.head?, p c = false) : text.dropWhile p = text := by
  cases text with
  | nil => rfl
  | cons c rest => simp [List.dropWhile, first c rfl]

theorem head?_dropWhile (p : Char → Bool) (text : List Char) :
    ∀ c ∈ (text.dropWhile p).head?, p c = false := by
  induction text with
  | nil => simp
  | cons c rest ih =>
    by_cases accepted : p c
    · simpa [List.dropWhile, accepted] using ih
    · simp [List.dropWhile, accepted]

theorem getLast?_trimEnd (text : List Char) : ∀ c ∈ (trimEnd text).getLast?, isBlank c = false := by
  simpa [trimEnd, List.getLast?_reverse] using head?_dropWhile isBlank text.reverse

theorem trimEnd_eq_self {text : List Char} (last : ∀ c ∈ text.getLast?, isBlank c = false) :
    trimEnd text = text := by
  rw [trimEnd, dropWhile_eq_self, List.reverse_reverse]
  simpa [List.head?_reverse] using last

theorem head?_trimEnd {text : List Char} (first : ∀ c ∈ text.head?, isBlank c = false) :
    ∀ c ∈ (trimEnd text).head?, isBlank c = false := by
  cases text with
  | nil => simp [trimEnd]
  | cons c rest =>
    have notBlank := first c rfl
    have kept : (trimEnd (c :: rest)).head? = some c := by
      simp [trimEnd, List.dropWhile_append, notBlank]
      split <;> simp
    simp [kept, notBlank]

theorem trim_trim (text : List Char) : trim (trim text) = trim text := by
  have first : ∀ c ∈ (trim text).head?, isBlank c = false :=
    head?_trimEnd (head?_dropWhile isBlank text)
  rw [trim, trimStart, dropWhile_eq_self first]
  exact trimEnd_eq_self (getLast?_trimEnd _)

end Replay.Text
