import Replay.Duration

namespace Replay

theorem roundHalfEven_mul {den : Nat} (positive : 0 < den) (whole : Nat) :
    roundHalfEven (whole * den) den = whole := by
  have quotient : whole * den / den = whole := Nat.mul_div_cancel _ positive
  have remainder : whole * den % den = 0 := Nat.mul_mod_left _ _
  rw [roundHalfEven, quotient, remainder]
  exact if_pos positive

theorem roundHalfEven_le {num den bound : Nat} (positive : 0 < den) (below : num ≤ bound * den) :
    roundHalfEven num den ≤ bound := by
  rcases Nat.lt_or_eq_of_le below with less | rfl
  · have quotient : num / den < bound := Nat.div_lt_of_lt_mul (Nat.mul_comm bound den ▸ less)
    rw [roundHalfEven]
    split
    · omega
    · split <;> omega
  · exact Nat.le_of_eq (roundHalfEven_mul positive bound)

namespace Binary64

/-- The exponent of a whole number is that of its leading bit less 52. -/
theorem exponentFor_one {n : Nat} (positive : 0 < n) :
    exponentFor n 1 = (Nat.log2 n : Int) - 52 := by
  have leading : twoTo (Nat.log2 n) ≤ n := Nat.log2_self_le (Nat.ne_of_gt positive)
  have one : Nat.log2 1 = 0 := by decide
  have scale : (53 + ((Nat.log2 n : Int) - (0 : Nat) - 53)).toNat = Nat.log2 n := by omega
  have unscaled : (-(53 + ((Nat.log2 n : Int) - (0 : Nat) - 53))).toNat = 0 := by omega
  have wide : 1 * twoTo (Nat.log2 n) ≤ n * twoTo 0 := by
    rw [Nat.one_mul]
    exact Nat.le_trans leading (Nat.le_of_eq (Nat.mul_one n).symm)
  simp only [exponentFor, one, scale, unscaled, if_pos wide]
  omega

def IsExactly (x : Binary64) (n : Nat) : Prop :=
  ∃ mantissa exponent, x = .finite false mantissa exponent ∧
    (quotient mantissa exponent).1 = n * (quotient mantissa exponent).2

theorem ofRatio_below {n : Nat} (positive : 0 < n) (small : n < twoTo 53) :
    IsExactly (ofRatio false n 1) n := by
  have bits : Nat.log2 n < 53 := (Nat.log2_lt (Nat.ne_of_gt positive)).mpr small
  have exponent := exponentFor_one positive
  let places := 52 - Nat.log2 n
  have upward : ((Nat.log2 n : Int) - 52).toNat = 0 := by omega
  have downward : (-((Nat.log2 n : Int) - 52)).toNat = places := by omega
  have mantissa : roundHalfEven (n * twoTo places) (1 * twoTo 0) = n * twoTo places := by
    have unit : 0 < 1 * twoTo 0 := by decide
    have exact := roundHalfEven_mul unit (n * twoTo places)
    simpa [twoTo] using exact
  have fits : n * twoTo places < twoTo 53 := by
    have below : n < twoTo (Nat.log2 n + 1) := Nat.lt_log2_self
    have sum : Nat.log2 n + 1 + places = 53 := by omega
    have total : twoTo (Nat.log2 n + 1) * twoTo places = twoTo 53 := by
      rw [← sum]
      exact (Nat.pow_add 2 _ _).symm
    calc
      n * twoTo places < twoTo (Nat.log2 n + 1) * twoTo places :=
        Nat.mul_lt_mul_of_pos_right below (twoTo_pos places)
      _ = twoTo 53 := total
  refine ⟨n * twoTo places, (Nat.log2 n : Int) - 52, ?_, ?_⟩
  · rw [ofRatio, if_neg (Nat.ne_of_gt positive)]
    simp only [exponent, upward, downward, mantissa, Nat.ne_of_lt fits, if_false]
    exact if_neg (by omega)
  · simp only [quotient, upward, downward]
    exact Nat.mul_one _

/-- Every natural number up to `2 ^ 53` is kept exactly. -/
theorem ofInt_exact {n : Nat} (small : n ≤ twoTo 53) : IsExactly (.ofInt n) n := by
  have sign : decide ((n : Int) < 0) = false := decide_eq_false (by omega)
  rw [ofInt, sign, Int.natAbs_natCast]
  rcases Nat.eq_zero_or_pos n with rfl | positive
  · exact ⟨0, -1074, rfl, by simp [quotient]⟩
  · rcases Nat.lt_or_eq_of_le small with below | rfl
    · exact ofRatio_below positive below
    · exact ⟨twoTo 52, 1, by decide +kernel, by decide +kernel⟩

end Binary64

namespace Duration

theorem ofSeconds_exact {x : Binary64} {n : Nat} (exact : x.IsExactly n) (small : n < twoTo 64) :
    ofSeconds x = .ok (n * 1000000000) := by
  obtain ⟨mantissa, exponent, rfl, value⟩ := exact
  have positive : 0 < (Binary64.quotient mantissa exponent).2 := twoTo_pos _
  have bounded : ¬ twoTo 64 * (Binary64.quotient mantissa exponent).2 ≤
      (Binary64.quotient mantissa exponent).1 := by
    rw [value, Nat.not_le]
    exact Nat.mul_lt_mul_of_pos_right small positive
  simp only [ofSeconds, Bool.false_and, Bool.false_eq_true, if_false, bounded]
  rw [value, Nat.mul_right_comm, roundHalfEven_mul positive]

theorem ofSeconds_le {seconds : Binary64} {nanos : Nat}
    (span : ofSeconds seconds = .ok nanos) : nanos ≤ twoTo 64 * 1000000000 := by
  cases seconds with
  | nan => cases span
  | infinite negative => cases span
  | finite negative mantissa exponent =>
    have positive : 0 < (Binary64.quotient mantissa exponent).2 := twoTo_pos _
    rw [ofSeconds] at span
    split at span
    · cases span
    · dsimp only at span
      split at span
      · cases span
      · next below =>
        obtain rfl := Except.ok.inj span
        apply roundHalfEven_le positive
        rw [Nat.mul_right_comm]
        exact Nat.mul_le_mul_right _ (Nat.le_of_not_le below)

end Duration

end Replay
