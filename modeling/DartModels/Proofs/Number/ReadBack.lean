import DartModels.Number.Shortest
import DartModels.Proofs.Number.Rounding

/-
Decimals rounded to doubles, and the shortest decimal of a double, which is rounded to that double
again.
-/

namespace DartModels.Number.Binary64

/-! Numbers beyond the doubles -/

section Beyond

variable {numerator denominator : Nat} (positive : 0 < numerator) (positiveToo : 0 < denominator)

include positive positiveToo

theorem ofRatio_of_large (negative : Bool) (large : (2 : ℚ) ^ (1024 : Int) ≤ numerator / denominator) :
    ofRatio negative numerator denominator = .infinite negative := by
  have quotient : (0 : ℚ) < numerator / denominator := by positivity
  have log : 1024 ≤ Int.log 2 ((numerator : ℚ) / denominator) :=
    (Int.zpow_le_iff_le_log Nat.one_lt_two quotient).mp (by exact_mod_cast large)
  have beyond : maxExponent < exponentOf numerator denominator := by
    rw [exponentOf_eq positive positiveToo, maxExponent]
    omega
  have carriedBeyond : maxExponent < exponentOf numerator denominator + 1 := by omega
  rw [ofRatio_eq_pack negative positive, pack, if_pos beyond, if_pos carriedBeyond, ite_self]

/-- Less than half of the least double is rounded to zero. -/
theorem ofRatio_of_small (negative : Bool) (small : (numerator : ℚ) / denominator < 2 ^ (-1075 : Int)) :
    ofRatio negative numerator denominator = zero negative := by
  have quotient : (0 : ℚ) < numerator / denominator := by positivity
  have log : Int.log 2 ((numerator : ℚ) / denominator) < -1075 :=
    (Int.lt_zpow_iff_log_lt Nat.one_lt_two quotient).mp (by exact_mod_cast small)
  have least : exponentOf numerator denominator = minExponent := by
    rw [exponentOf_eq positive positiveToo, minExponent]
    omega
  have nothing : rounded numerator denominator = 0 := by
    apply roundHalfEven_eq_zero
    have under : (0 : ℚ) < (scaled numerator denominator minExponent).2 :=
      Nat.cast_pos.mpr (scaled_pos positiveToo minExponent)
    have half : ((scaled numerator denominator minExponent).1 : ℚ) /
        (scaled numerator denominator minExponent).2 < 2⁻¹ := by
      rw [scaled_div, div_lt_iff₀ (by positivity)]
      refine small.trans_eq ?_
      rw [minExponent, ← zpow_neg_one, ← zpow_add₀ two_ne_zero]
      rfl
    rw [div_lt_iff₀ under, inv_mul_eq_div, lt_div_iff₀' two_pos] at half
    rw [least]
    exact_mod_cast half
  have uncarried : 0 ≠ power 2 53 := (power_pos two_pos 53).ne
  rw [ofRatio_eq_pack negative positive, nothing, least, pack, if_neg uncarried, zero]
  exact if_neg (by decide)

end Beyond

/-! Decimals -/

/-- The quotient that a decimal stands for. -/
theorem decimal_div (digits : Nat) (exponent : Int) :
    ((digits * power 10 exponent : Nat) : ℚ) / (power 10 (-exponent) : Nat) =
      digits * 10 ^ exponent := by
  rw [Nat.cast_mul, mul_div_assoc, power_div_power, Nat.cast_ofNat]

theorem eight_zpow_eq (exponent : Int) : (8 : ℚ) ^ exponent = 2 ^ (3 * exponent) := by
  rw [zpow_mul]
  norm_num

theorem large_decimal {digits : Nat} (positive : 0 < digits) {exponent : Int} (large : 400 < exponent) :
    (2 : ℚ) ^ (1024 : Int) ≤ digits * 10 ^ exponent := by
  obtain ⟨size, rfl⟩ := Int.eq_ofNat_of_zero_le (show 0 ≤ exponent by omega)
  have one : (1 : ℚ) ≤ digits := Nat.one_le_cast.mpr positive
  calc
    (2 : ℚ) ^ (1024 : Int) ≤ 2 ^ (3 * (size : Int)) := zpow_le_zpow_right₀ one_le_two (by omega)
    _ = 8 ^ size := by rw [← eight_zpow_eq, zpow_natCast]
    _ ≤ 10 ^ size := pow_le_pow_left₀ (by norm_num) (by norm_num) size
    _ = 1 * 10 ^ (size : Int) := by rw [one_mul, zpow_natCast]
    _ ≤ digits * 10 ^ (size : Int) := by gcongr

theorem small_decimal {digits : Nat} {exponent : Int}
    (small : exponent < -(400 + (digits.log2 : Int))) :
    (digits : ℚ) * 10 ^ exponent < 2 ^ (-1075 : Int) := by
  obtain ⟨size, rfl⟩ := Int.exists_eq_neg_ofNat (show exponent ≤ 0 by omega)
  have bits : (digits : ℚ) < 2 ^ ((digits.log2 : Int) + 1) := by
    exact_mod_cast Nat.lt_log2_self
  have tens : (10 : ℚ) ^ (-(size : Int)) ≤ 2 ^ (3 * -(size : Int)) := by
    rw [← eight_zpow_eq, zpow_neg, zpow_neg, zpow_natCast, zpow_natCast]
    gcongr
    norm_num
  calc
    (digits : ℚ) * 10 ^ (-(size : Int)) <
        2 ^ ((digits.log2 : Int) + 1) * 10 ^ (-(size : Int)) := by gcongr
    _ ≤ 2 ^ ((digits.log2 : Int) + 1) * 2 ^ (3 * -(size : Int)) := by gcongr
    _ = 2 ^ ((digits.log2 : Int) + 1 + 3 * -(size : Int)) := (zpow_add₀ two_ne_zero _ _).symm
    _ ≤ 2 ^ (-1075 : Int) := zpow_le_zpow_right₀ one_le_two (by omega)

theorem power_ten_pos (exponent : Int) : 0 < power 10 exponent := power_pos (by norm_num) exponent

/-- Far exponents are no exceptions to rounding. -/
theorem ofDecimal_eq_ofRatio (negative : Bool) {digits : Nat} (positive : 0 < digits)
    (exponent : Int) :
    ofDecimal negative digits exponent =
      ofRatio negative (digits * power 10 exponent) (power 10 (-exponent)) := by
  have above := Nat.mul_pos positive (power_ten_pos exponent)
  have below := power_ten_pos (-exponent)
  rw [ofDecimal, if_neg positive.ne']
  split_ifs with large small
  · refine (ofRatio_of_large above below negative ?_).symm
    rw [decimal_div]
    exact large_decimal positive large
  · refine (ofRatio_of_small above below negative ?_).symm
    rw [decimal_div]
    exact small_decimal small
  · rfl

/-- The double depends on the value of the decimal alone. -/
theorem ofDecimal_eq_of_eq (negative : Bool) {digits other : Nat} (positive : 0 < digits)
    (otherPositive : 0 < other) {exponent otherExponent : Int}
    (same : (digits : ℚ) * 10 ^ exponent = other * 10 ^ otherExponent) :
    ofDecimal negative digits exponent = ofDecimal negative other otherExponent := by
  rw [ofDecimal_eq_ofRatio negative positive, ofDecimal_eq_ofRatio negative otherPositive]
  apply ofRatio_eq_of_div_eq (Nat.mul_pos positive (power_ten_pos _)) (power_ten_pos _) negative
    (Nat.mul_pos otherPositive (power_ten_pos _)) (power_ten_pos _)
  rw [decimal_div, decimal_div, same]

theorem fits_of_ofDecimal {negative sign : Bool} {digits mantissa : Nat} {place exponent : Int}
    (found : ofDecimal negative digits place = .finite sign mantissa exponent) :
    Fits mantissa exponent := by
  rcases digits.eq_zero_or_pos with rfl | positive
  · rw [ofDecimal, if_pos rfl, zero] at found
    cases found
    exact fits_zero
  · rw [ofDecimal_eq_ofRatio negative positive] at found
    exact fits_of_ofRatio (Nat.mul_pos positive (power_ten_pos _)) (power_ten_pos _) found

/-- A decimal that a double equals is that double. -/
theorem ofDecimal_of_fits (negative : Bool) {digits mantissa : Nat} {place exponent : Int}
    (fits : Fits mantissa exponent)
    (same : (digits : ℚ) * 10 ^ place = mantissa * 2 ^ exponent) :
    ofDecimal negative digits place = .finite negative mantissa exponent := by
  rcases digits.eq_zero_or_pos with rfl | positive
  · have unit : (2 : ℚ) ^ exponent ≠ 0 := by positivity
    rw [Nat.cast_zero, zero_mul, eq_comm, mul_eq_zero_iff_right unit, Nat.cast_eq_zero] at same
    rcases fits.full with rfl | full
    · rw [ofDecimal, if_pos rfl, zero, same]
    · omega
  · rw [ofDecimal_eq_ofRatio negative positive]
    apply ofRatio_of_fits (Nat.mul_pos positive (power_ten_pos _)) (power_ten_pos _) negative fits
    rw [decimal_div, same]

/-- The sign of a number has no part in its rounding. -/
theorem ofDecimal_eq_finite {digits mantissa : Nat} {place exponent : Int}
    (found : ofDecimal false digits place = .finite false mantissa exponent) (negative : Bool) :
    ofDecimal negative digits place = .finite negative mantissa exponent := by
  rcases digits.eq_zero_or_pos with rfl | positive
  · rw [ofDecimal, if_pos rfl, zero] at found ⊢
    cases found
    rfl
  · have above := Nat.mul_pos positive (power_ten_pos place)
    rw [ofDecimal_eq_ofRatio _ positive, ofRatio_eq_pack _ above, pack] at found ⊢
    split_ifs at found ⊢ <;> cases found <;> rfl

/-! The shortest decimal -/

theorem exactDecimal_eq (mantissa : Nat) (exponent : Int) :
    ((exactDecimal mantissa exponent).digits : ℚ) * 10 ^ (exactDecimal mantissa exponent).exponent =
      mantissa * 2 ^ exponent := by
  unfold exactDecimal
  split_ifs with whole
  · obtain ⟨size, rfl⟩ := Int.eq_ofNat_of_zero_le whole
    simp [power]
  · obtain ⟨size, rfl⟩ := Int.exists_eq_neg_ofNat (not_le.mp whole).le
    have ten : (10 : ℚ) = 5 * 2 := by norm_num
    have five : (5 : ℚ) ^ size ≠ 0 := by positivity
    simp only [power, neg_neg, Int.toNat_natCast, Nat.pow_eq, zpow_neg, zpow_natCast, ten, mul_pow]
    push_cast
    field_simp

/-- The search ends at a decimal that reads back if the exact one does. -/
theorem search_reads {reads : Decimal → Bool} {exact : Decimal} (own : reads exact = true)
    (cut : Nat) : reads (search reads exact cut) = true := by
  induction cut with
  | zero => exact own
  | succ cut inductionHypothesis =>
      rw [search]
      split
      next found hit => exact List.find?_some hit
      next => exact inductionHypothesis

/-- The shortest decimal of a double is rounded to the double. -/
theorem ofDecimal_shortest {mantissa : Nat} {exponent : Int} (fits : Fits mantissa exponent)
    (negative : Bool) :
    ofDecimal negative (shortest mantissa exponent).digits (shortest mantissa exponent).exponent =
      .finite negative mantissa exponent := by
  apply ofDecimal_eq_finite
  let reads (decimal : Decimal) : Bool :=
    ofDecimal false decimal.digits decimal.exponent == .finite false mantissa exponent
  have own : reads (exactDecimal mantissa exponent) = true :=
    beq_iff_eq.mpr (ofDecimal_of_fits false fits (exactDecimal_eq mantissa exponent))
  have found : reads (shortest mantissa exponent) = true := search_reads own _
  exact eq_of_beq found

end DartModels.Number.Binary64
