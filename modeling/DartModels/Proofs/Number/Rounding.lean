import DartModels.Proofs.Number.Extent

/-
Rounding to doubles: the result depends on the rounded number alone, however it is written, and a
number that is a double already is left as it is.
-/

namespace DartModels.Number.Binary64

/-! Rounding to integers -/

variable {above below : Nat}

theorem roundHalfEven_mul_right (above below : Nat) {factor : Nat} (positive : 0 < factor) :
    roundHalfEven (above * factor) (below * factor) = roundHalfEven above below := by
  have twice : 2 * (above % below * factor) = 2 * (above % below) * factor := by ring
  simp only [roundHalfEven, Nat.mul_div_mul_right _ _ positive, Nat.mul_mod_mul_right, twice,
    Nat.mul_lt_mul_right positive]

/-- The rounded integer depends on the quotient alone. -/
theorem roundHalfEven_eq_of_div_eq {other under : Nat} (positive : 0 < below)
    (positiveToo : 0 < under) (same : (above : ℚ) / below = other / under) :
    roundHalfEven above below = roundHalfEven other under := by
  have cross : above * under = other * below := by
    rw [div_eq_div_iff (Nat.cast_ne_zero.mpr positive.ne') (Nat.cast_ne_zero.mpr positiveToo.ne')]
      at same
    exact_mod_cast same
  calc
    roundHalfEven above below = roundHalfEven (above * under) (below * under) :=
      (roundHalfEven_mul_right above below positiveToo).symm
    _ = roundHalfEven (other * below) (under * below) := by rw [cross, mul_comm below]
    _ = roundHalfEven other under := roundHalfEven_mul_right other under positive

/-- An integer bound on the quotient bounds the rounded integer. -/
theorem roundHalfEven_le {bound : Nat} (positive : 0 < below) (within : above ≤ bound * below) :
    roundHalfEven above below ≤ bound := by
  have split := Nat.div_add_mod above below
  have least : above / below ≤ bound := Nat.div_le_of_le_mul (by rwa [mul_comm])
  rcases least.lt_or_eq with less | equal
  · unfold roundHalfEven
    dsimp only
    split_ifs <;> omega
  · have exact : above % below = 0 := by
      rw [equal, mul_comm] at split
      omega
    simp [roundHalfEven, exact, positive, equal]

theorem le_roundHalfEven {bound : Nat} (positive : 0 < below) (within : bound * below ≤ above) :
    bound ≤ roundHalfEven above below := by
  have least : bound ≤ above / below := (Nat.le_div_iff_mul_le positive).mpr within
  unfold roundHalfEven
  dsimp only
  split_ifs <;> omega

/-- Less than one half is rounded to nothing. -/
theorem roundHalfEven_eq_zero (small : 2 * above < below) : roundHalfEven above below = 0 := by
  have less : above < below := by omega
  simp [roundHalfEven, Nat.div_eq_of_lt less, Nat.mod_eq_of_lt less, small]

theorem power_two (bits : Nat) : power 2 bits = 2 ^ bits := by
  rw [power, Int.toNat_natCast, Nat.pow_eq]

/-! The exponent of a number -/

theorem scaled_pos {numerator denominator : Nat} (positive : 0 < denominator) (exponent : Int) :
    0 < (scaled numerator denominator exponent).2 :=
  Nat.mul_pos positive (power_pos two_pos exponent)

theorem scaled_div (numerator denominator : Nat) (exponent : Int) :
    ((scaled numerator denominator exponent).1 : ℚ) / (scaled numerator denominator exponent).2 =
      numerator / denominator / 2 ^ exponent := by
  have power := power_div_power 2 (-exponent)
  rw [neg_neg, Nat.cast_ofNat] at power
  rw [scaled, Nat.cast_mul, Nat.cast_mul, mul_div_mul_comm, power, zpow_neg, ← div_eq_mul_inv]

theorem scaled_lt_iff (numerator : Nat) {denominator : Nat} (positive : 0 < denominator)
    (exponent : Int) (bits : Nat) :
    (scaled numerator denominator exponent).1 < (scaled numerator denominator exponent).2 * 2 ^ bits ↔
      (numerator : ℚ) / denominator < 2 ^ (exponent + bits) := by
  have under : (0 : ℚ) < (scaled numerator denominator exponent).2 :=
    Nat.cast_pos.mpr (scaled_pos positive exponent)
  have unit : (0 : ℚ) < 2 ^ exponent := by positivity
  rw [zpow_add₀ two_ne_zero, zpow_natCast, ← div_lt_iff₀' unit, ← scaled_div, div_lt_iff₀' under]
  exact_mod_cast Iff.rfl

/-- The binary logarithm of a quotient is that of its parts, or one less. -/
theorem log_div_bounds {numerator denominator : Nat} (positive : 0 < numerator)
    (positiveToo : 0 < denominator) :
    (numerator.log2 : Int) - denominator.log2 - 1 ≤ Int.log 2 ((numerator : ℚ) / denominator) ∧
      Int.log 2 ((numerator : ℚ) / denominator) ≤ (numerator.log2 : Int) - denominator.log2 := by
  have quotient : (0 : ℚ) < numerator / denominator := by positivity
  have above : (2 : ℚ) ^ (numerator.log2 : Int) ≤ numerator := by
    exact_mod_cast Nat.log2_self_le positive.ne'
  have aboveNext : (numerator : ℚ) < 2 ^ ((numerator.log2 : Int) + 1) := by
    exact_mod_cast Nat.lt_log2_self
  have below : (2 : ℚ) ^ (denominator.log2 : Int) ≤ denominator := by
    exact_mod_cast Nat.log2_self_le positiveToo.ne'
  have belowNext : (denominator : ℚ) < 2 ^ ((denominator.log2 : Int) + 1) := by
    exact_mod_cast Nat.lt_log2_self
  have under : (0 : ℚ) < denominator := Nat.cast_pos.mpr positiveToo
  constructor
  · refine (Int.zpow_le_iff_le_log Nat.one_lt_two quotient).mp ?_
    rw [Nat.cast_ofNat, le_div_iff₀ under]
    calc
      (2 : ℚ) ^ ((numerator.log2 : Int) - denominator.log2 - 1) * denominator
          ≤ 2 ^ ((numerator.log2 : Int) - denominator.log2 - 1) *
            2 ^ ((denominator.log2 : Int) + 1) := by gcongr
      _ = 2 ^ (numerator.log2 : Int) := by
        rw [← zpow_add₀ two_ne_zero]
        congr 1
        ring
      _ ≤ numerator := above
  · refine Int.lt_add_one_iff.mp ((Int.lt_zpow_iff_log_lt Nat.one_lt_two quotient).mp ?_)
    rw [Nat.cast_ofNat, div_lt_iff₀ under]
    calc
      (numerator : ℚ) < 2 ^ ((numerator.log2 : Int) + 1) := aboveNext
      _ = 2 ^ ((numerator.log2 : Int) - denominator.log2 + 1) * 2 ^ (denominator.log2 : Int) := by
        rw [← zpow_add₀ two_ne_zero]
        congr 1
        ring
      _ ≤ 2 ^ ((numerator.log2 : Int) - denominator.log2 + 1) * denominator := by gcongr

/-- The exponent leaves 53 bits before the point, as long as it is not the least one. -/
theorem exponentOf_eq {numerator denominator : Nat} (positive : 0 < numerator)
    (positiveToo : 0 < denominator) :
    exponentOf numerator denominator =
      max minExponent (Int.log 2 ((numerator : ℚ) / denominator) - 52) := by
  have quotient : (0 : ℚ) < numerator / denominator := by positivity
  obtain ⟨least, most⟩ := log_div_bounds positive positiveToo
  have guessed := scaled_lt_iff numerator positiveToo
    ((numerator.log2 : Int) - denominator.log2 - 52) 52
  rw [show (numerator.log2 : Int) - denominator.log2 - 52 + (52 : Nat) =
      numerator.log2 - denominator.log2 by push_cast; ring] at guessed
  have below : (numerator : ℚ) / denominator < 2 ^ ((numerator.log2 : Int) - denominator.log2) ↔
      Int.log 2 ((numerator : ℚ) / denominator) < (numerator.log2 : Int) - denominator.log2 := by
    rw [← Int.lt_zpow_iff_log_lt Nat.one_lt_two quotient, Nat.cast_ofNat]
  unfold exponentOf
  dsimp only
  rw [show power 2 52 = 2 ^ 52 from power_two 52]
  simp only [guessed, below]
  split_ifs <;> omega

/-! Rounding to doubles -/

/-- A double with an integer of at most 53 bits, which are all used unless the exponent is the
least one. -/
structure Fits (mantissa : Nat) (exponent : Int) : Prop where
  small : mantissa < 2 ^ 53
  least : minExponent ≤ exponent
  most : exponent ≤ maxExponent
  full : exponent = minExponent ∨ 2 ^ 52 ≤ mantissa

theorem fits_zero : Fits 0 minExponent := ⟨by positivity, le_refl _, by decide, .inl rfl⟩

/-- The double of a rounded integer, which may need one more bit. -/
def pack (negative : Bool) (rounded : Nat) (exponent : Int) : Binary64 :=
  if rounded = power 2 53 then
    if maxExponent < exponent + 1 then .infinite negative
    else .finite negative (power 2 52) (exponent + 1)
  else if maxExponent < exponent then .infinite negative
  else .finite negative rounded exponent

/-- The integer that a quotient is rounded to at its exponent. -/
def rounded (numerator denominator : Nat) : Nat :=
  let parts := scaled numerator denominator (exponentOf numerator denominator)
  roundHalfEven parts.1 parts.2

theorem ofRatio_eq_pack (negative : Bool) {numerator : Nat} (positive : 0 < numerator)
    (denominator : Nat) :
    ofRatio negative numerator denominator =
      pack negative (rounded numerator denominator) (exponentOf numerator denominator) := by
  -- The cases are split by hand, since the power is too large to decide the equation.
  rw [ofRatio, if_neg positive.ne']
  extract_lets exponent
  split
  next above below parts =>
    extract_lets integer
    have own : rounded numerator denominator = integer := by
      rw [rounded, parts]
    rw [own, pack]
    by_cases carried : integer = power 2 53
    · rw [if_pos carried, if_pos carried]
    · rw [if_neg carried, if_neg carried]

/-- A number below a power of two is rounded to at most that power. -/
theorem rounded_le {numerator denominator : Nat} (positive : 0 < denominator) (bits : Nat)
    (less : (numerator : ℚ) / denominator < 2 ^ (exponentOf numerator denominator + bits)) :
    rounded numerator denominator ≤ 2 ^ bits := by
  apply roundHalfEven_le (scaled_pos positive _)
  have under := (scaled_lt_iff numerator positive (exponentOf numerator denominator) bits).mpr less
  rw [mul_comm]
  exact under.le

theorem le_rounded {numerator denominator : Nat} (positive : 0 < denominator) (bits : Nat)
    (least : (2 : ℚ) ^ (exponentOf numerator denominator + bits) ≤ numerator / denominator) :
    2 ^ bits ≤ rounded numerator denominator := by
  apply le_roundHalfEven (scaled_pos positive _)
  rw [mul_comm]
  exact not_lt.mp fun under => not_lt.mpr least ((scaled_lt_iff numerator positive _ bits).mp under)

section Quotient

variable {numerator denominator other under : Nat} (positive : 0 < numerator)
  (positiveToo : 0 < denominator)

include positive positiveToo

theorem ofRatio_eq_of_div_eq (negative : Bool) (otherPositive : 0 < other) (underPositive : 0 < under)
    (same : (numerator : ℚ) / denominator = other / under) :
    ofRatio negative numerator denominator = ofRatio negative other under := by
  have exponents : exponentOf numerator denominator = exponentOf other under := by
    rw [exponentOf_eq positive positiveToo, exponentOf_eq otherPositive underPositive, same]
  have integers : rounded numerator denominator = rounded other under := by
    unfold rounded
    dsimp only
    rw [exponents]
    apply roundHalfEven_eq_of_div_eq (scaled_pos positiveToo _) (scaled_pos underPositive _)
    rw [scaled_div, scaled_div, same]
  rw [ofRatio_eq_pack negative positive, ofRatio_eq_pack negative otherPositive, exponents, integers]

/-- The integer has at most one bit too many, and all its bits unless the exponent is the least. -/
theorem rounded_bounds :
    rounded numerator denominator ≤ 2 ^ 53 ∧ minExponent ≤ exponentOf numerator denominator ∧
      (exponentOf numerator denominator = minExponent ∨ 2 ^ 52 ≤ rounded numerator denominator) := by
  have quotient : (0 : ℚ) < numerator / denominator := by positivity
  have exponent := exponentOf_eq positive positiveToo
  refine ⟨rounded_le positiveToo 53 ?_, by omega, ?_⟩
  · have next := Int.lt_zpow_succ_log_self Nat.one_lt_two ((numerator : ℚ) / denominator)
    rw [Nat.cast_ofNat] at next
    refine next.trans_le (zpow_le_zpow_right₀ one_le_two ?_)
    omega
  · by_cases least : exponentOf numerator denominator = minExponent
    · exact .inl least
    · right
      apply le_rounded positiveToo 52
      have own := Int.zpow_log_le_self Nat.one_lt_two quotient
      rw [Nat.cast_ofNat] at own
      refine (zpow_le_zpow_right₀ one_le_two ?_).trans own
      omega

/-- What a quotient is rounded to fits a double, unless it is infinite. -/
theorem fits_of_ofRatio {negative sign : Bool} {mantissa : Nat} {exponent : Int}
    (found : ofRatio negative numerator denominator = .finite sign mantissa exponent) :
    Fits mantissa exponent := by
  obtain ⟨most, least, full⟩ := rounded_bounds positive positiveToo
  rw [ofRatio_eq_pack negative positive, pack] at found
  split_ifs at found with carried beyond beyond
  · cases found
    rw [show power 2 52 = 2 ^ 52 from power_two 52]
    exact ⟨by norm_num, by omega, not_lt.mp beyond, .inr le_rfl⟩
  · cases found
    exact ⟨lt_of_le_of_ne most (power_two 53 ▸ carried), least, not_lt.mp beyond, full⟩

/-- A number that fits a double is that double. -/
theorem ofRatio_of_fits (negative : Bool) {mantissa : Nat} {exponent : Int}
    (fits : Fits mantissa exponent) (same : (numerator : ℚ) / denominator = mantissa * 2 ^ exponent) :
    ofRatio negative numerator denominator = .finite negative mantissa exponent := by
  have quotient : (0 : ℚ) < numerator / denominator := by positivity
  have unit : (0 : ℚ) < 2 ^ exponent := by positivity
  have small : (numerator : ℚ) / denominator < 2 ^ (53 + exponent) := by
    rw [same, zpow_add₀ two_ne_zero]
    gcongr
    exact_mod_cast fits.small
  have own : exponentOf numerator denominator = exponent := by
    have less := (Int.lt_zpow_iff_log_lt Nat.one_lt_two quotient).mp
      (show (numerator : ℚ) / denominator < (2 : Nat) ^ (53 + exponent) by exact_mod_cast small)
    have least := fits.least
    rw [exponentOf_eq positive positiveToo]
    rcases fits.full with lowest | full
    · omega
    · have large : ((2 : Nat) : ℚ) ^ (52 + exponent) ≤ numerator / denominator := by
        rw [same, Nat.cast_ofNat, zpow_add₀ two_ne_zero]
        gcongr
        exact_mod_cast full
      have log := (Int.zpow_le_iff_le_log Nat.one_lt_two quotient).mp large
      omega
  have exact : rounded numerator denominator = mantissa := by
    have whole : (scaled numerator denominator exponent).1 =
        mantissa * (scaled numerator denominator exponent).2 := by
      have under : ((scaled numerator denominator exponent).2 : ℚ) ≠ 0 :=
        Nat.cast_ne_zero.mpr (scaled_pos positiveToo exponent).ne'
      have ratio := scaled_div numerator denominator exponent
      rw [same, mul_div_cancel_right₀ _ unit.ne', div_eq_iff under] at ratio
      exact_mod_cast ratio
    rw [rounded, own]
    exact le_antisymm (roundHalfEven_le (scaled_pos positiveToo _) whole.le)
      (le_roundHalfEven (scaled_pos positiveToo _) whole.ge)
  have unpacked : mantissa ≠ power 2 53 := power_two 53 ▸ fits.small.ne
  rw [ofRatio_eq_pack negative positive, own, exact, pack, if_neg unpacked]
  exact if_neg (not_lt.mpr fits.most)

end Quotient

end DartModels.Number.Binary64
