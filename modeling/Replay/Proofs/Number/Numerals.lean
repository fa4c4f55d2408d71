import Replay.Number.Numeral

namespace Replay.Numeral

/-- Decimal digits, at least one, whose value is the number. Zeros in front do not count. -/
structure WritesNat (text : List Char) (n : Nat) : Prop where
  nonempty : text ≠ []
  digits : ∀ c ∈ text, c.isDigit = true
  value : Nat.ofDigitChars 10 text 0 = n

inductive WritesInt : List Char → Int → Prop
  | plain {text : List Char} {n : Nat} : WritesNat text n → WritesInt text n
  | plus {text : List Char} {n : Nat} : WritesNat text n → WritesInt ('+' :: text) n
  | minus {text : List Char} {n : Nat} : WritesNat text n → WritesInt ('-' :: text) (-n)

theorem digitsValue_eq (value : Nat) (digits : List Char) :
    digitsValue value digits = Nat.ofDigitChars 10 digits value := by
  rw [digitsValue, Nat.ofDigitChars_eq_foldl]
  congr 1
  funext value c
  rw [digitValue, Nat.mul_comm]

theorem readDigits?_eq_some_iff (text : List Char) (n : Nat) :
    readDigits? text = some n ↔ WritesNat text n := by
  rw [readDigits?, digitsValue_eq]
  constructor
  · intro read
    split at read
    · next written =>
      simp only [Bool.and_eq_true, decide_eq_true_eq, List.all_eq_true] at written
      exact ⟨written.1, written.2, Option.some.inj read⟩
    · cases read
  · intro written
    have accepted : (text ≠ [] && text.all Char.isDigit) = true := by
      simp only [Bool.and_eq_true, decide_eq_true_eq, List.all_eq_true]
      exact ⟨written.nonempty, written.digits⟩
    rw [if_pos accepted, written.value]

theorem writesNat_repr (n : Nat) : WritesNat n.repr.toList n where
  nonempty := by simp
  digits := by
    intro c member
    rw [Nat.toList_repr] at member
    exact Nat.isDigit_of_mem_toDigits (by decide) (by decide) member
  value := by rw [Nat.toList_repr, Nat.ofDigitChars_ten_toDigits]

theorem WritesNat.unique {text : List Char} {m n : Nat} (first : WritesNat text m)
    (second : WritesNat text n) : m = n :=
  first.value.symm.trans second.value

theorem eq_of_toList_repr_eq {m n : Nat} (same : m.repr.toList = n.repr.toList) : m = n := by
  have written := writesNat_repr m
  rw [same] at written
  exact written.unique (writesNat_repr n)

theorem WritesNat.not_mem {text : List Char} {n : Nat} (written : WritesNat text n) {c : Char}
    (other : c.isDigit = false) : c ∉ text := by
  intro member
  have digit := written.digits c member
  rw [other] at digit
  cases digit

theorem WritesNat.head_ne {text : List Char} {n : Nat} (written : WritesNat text n) {c : Char}
    (other : c.isDigit = false) (rest : List Char) : text ≠ c :: rest := by
  rintro rfl
  exact written.not_mem other List.mem_cons_self

theorem readWord?_writesNat {text : List Char} {n : Nat} (written : WritesNat text n) :
    readWord? text = if n < twoTo 64 then some n else none := by
  have unsigned : readWord? text =
      (readDigits? text).bind fun n => if n < twoTo 64 then some n else none := by
    rw [readWord?]
    exact written.head_ne (by decide)
  rw [unsigned, (readDigits?_eq_some_iff text n).mpr written, Option.bind_some]

theorem readExponent?_eq_some_iff (text : List Char) (n : Int) :
    readExponent? text = some n ↔ WritesInt text n := by
  constructor
  · intro read
    rw [readExponent?.eq_def] at read
    split at read
    · obtain ⟨magnitude, digits, rfl⟩ := Option.map_eq_some_iff.mp read
      exact .plus ((readDigits?_eq_some_iff _ _).mp digits)
    · obtain ⟨value, lifted, rfl⟩ := Option.map_eq_some_iff.mp read
      obtain ⟨magnitude, digits, same⟩ := Option.bind_eq_some_iff.mp lifted
      obtain rfl := Option.some.inj same
      exact .minus ((readDigits?_eq_some_iff _ _).mp digits)
    · obtain ⟨magnitude, digits, rfl⟩ := Option.map_eq_some_iff.mp read
      exact .plain ((readDigits?_eq_some_iff _ _).mp digits)
  · intro written
    cases written with
    | @plain _ magnitude digits =>
      rw [readExponent?, (readDigits?_eq_some_iff text magnitude).mpr digits]
      · rfl
      · exact digits.head_ne (by decide)
      · exact digits.head_ne (by decide)
    | @plus rest magnitude digits =>
      rw [readExponent?, (readDigits?_eq_some_iff rest magnitude).mpr digits]
      rfl
    | @minus rest magnitude digits =>
      rw [readExponent?, (readDigits?_eq_some_iff rest magnitude).mpr digits]
      rfl

theorem WritesInt.unique {text : List Char} {m n : Int} (first : WritesInt text m)
    (second : WritesInt text n) : m = n := by
  rw [← readExponent?_eq_some_iff] at first second
  rw [first] at second
  exact Option.some.inj second

theorem WritesInt.sign_or_digit {text : List Char} {n : Int} (written : WritesInt text n) :
    ∀ c ∈ text, c = '+' ∨ c = '-' ∨ c.isDigit = true := by
  intro c member
  cases written with
  | plain digits => exact .inr (.inr (digits.digits c member))
  | plus digits =>
    rcases List.mem_cons.mp member with sign | later
    · exact .inl sign
    · exact .inr (.inr (digits.digits c later))
  | minus digits =>
    rcases List.mem_cons.mp member with sign | later
    · exact .inr (.inl sign)
    · exact .inr (.inr (digits.digits c later))

theorem readInt32?_eq_some_iff (text : List Char) (n : Int) :
    readInt32? text = some n ↔ WritesInt text n ∧ -2147483648 ≤ n ∧ n ≤ 2147483647 := by
  have bounded : readInt32? text =
      (readExponent? text).bind fun n => if -(twoTo 31 : Int) ≤ n ∧ n < twoTo 31 then some n else none := rfl
  have limit : (twoTo 31 : Int) = 2147483648 := rfl
  rw [bounded, Option.bind_eq_some_iff, limit]
  constructor
  · rintro ⟨m, read, kept⟩
    split at kept
    · next within =>
      obtain rfl := Option.some.inj kept
      exact ⟨(readExponent?_eq_some_iff text m).mp read, within.1, by omega⟩
    · cases kept
  · rintro ⟨written, low, high⟩
    refine ⟨n, (readExponent?_eq_some_iff text n).mpr written, ?_⟩
    exact if_pos ⟨low, by omega⟩

theorem writesInt_toString (n : Int) : WritesInt (toString n).toList n := by
  cases n with
  | ofNat n => exact .plain (writesNat_repr n)
  | negSucc n =>
    have signed : (toString (Int.negSucc n)).toList = '-' :: (n + 1).repr.toList :=
      String.toList_append
    rw [signed]
    exact .minus (writesNat_repr (n + 1))

end Replay.Numeral
