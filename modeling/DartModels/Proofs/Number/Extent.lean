import DartModels.Number.Binary64
import Mathlib

/-
Doubles as numbers, and what lies above or below all numbers.
-/

namespace DartModels.Number

/-- A number, or what lies above or below all numbers. -/
abbrev Extent := WithBot (WithTop ℚ)

theorem cmp_coe (x y : ℚ) : cmp (x : Extent) (y : Extent) = cmp x y :=
  (WithBot.coe_strictMono.comp WithTop.coe_strictMono).cmp_map_eq x y

theorem cmp_intCast (m n : Int) : cmp (m : ℚ) (n : ℚ) = cmp m n :=
  Int.cast_strictMono.cmp_map_eq m n

/-- One of the two powers is one, and the other is the power of the size of the exponent. -/
theorem power_div_power (base : Nat) (exponent : Int) :
    (power base exponent : ℚ) / power base (-exponent) = (base : ℚ) ^ exponent := by
  obtain ⟨n, rfl | rfl⟩ := exponent.eq_nat_or_neg
  · simp [power]
  · simp [power, zpow_neg]

theorem power_pos {base : Nat} (positive : 0 < base) (exponent : Int) : 0 < power base exponent :=
  Nat.pow_pos positive

theorem power_eq_zpow_mul (exponent : Int) :
    (power 2 exponent : ℚ) = 2 ^ exponent * power 2 (-exponent) :=
  (div_eq_iff (Nat.cast_ne_zero.mpr (power_pos two_pos (-exponent)).ne')).mp
    (power_div_power 2 exponent)

namespace Binary64

/-- The value of a finite double. -/
def rational (negative : Bool) (mantissa : Nat) (exponent : Int) : ℚ :=
  (if negative then -(mantissa : ℚ) else mantissa) * 2 ^ exponent

/-- The place of a double among the numbers, unless it is none. -/
def extent? : Binary64 → Option Extent
  | .nan => none
  | .infinite negative => some (if negative then ⊥ else ⊤)
  | .finite negative mantissa exponent => some (rational negative mantissa exponent)

/-- A double compares with an integer by its place among the numbers. -/
theorem compareInt?_eq_cmp {x : Binary64} {extent : Extent} (known : x.extent? = some extent)
    (n : Int) : x.compareInt? n = some (cmp extent (n : ℚ)) := by
  cases x with
  | nan => cases known
  | infinite negative =>
      cases known
      cases negative <;> rfl
  | finite negative mantissa exponent =>
      cases known
      have cast : (((if negative then -(mantissa : Int) else mantissa) : Int) : ℚ) =
          if negative then -(mantissa : ℚ) else mantissa := by
        split <;> simp
      have unit : (0 : ℚ) < power 2 (-exponent) := Nat.cast_pos.mpr (power_pos two_pos _)
      have scaled := cmp_mul_pos_right unit (rational negative mantissa exponent) n
      rw [compareInt?, cmp_coe, ← scaled, ← cmp_eq_compare, ← cmp_intCast]
      push_cast
      rw [rational, mul_assoc, ← power_eq_zpow_mul]

theorem compareInt?_eq_some_eq_iff {x : Binary64} {n : Int} :
    x.compareInt? n = some .eq ↔ x.extent? = some ((n : ℚ) : Extent) := by
  cases known : x.extent? with
  | none =>
      cases x with
      | nan => simp [compareInt?]
      | infinite _ | finite _ _ _ => cases known
  | some extent => rw [compareInt?_eq_cmp known, Option.some_inj, Option.some_inj, cmp_eq_eq_iff]

/-- A signed quotient is an integer exactly when the division leaves nothing. -/
theorem signed_div_eq_iff (above : Nat) {below : Nat} (positive : 0 < below) (negative : Bool)
    (n : Int) :
    above % below = 0 ∧
        (if negative then -((above / below : Nat) : Int) else (above / below : Nat)) = n ↔
      (if negative then -(above : Int) else above) = n * below := by
  have nonzero : (below : Int) ≠ 0 := Int.natCast_ne_zero_iff_pos.mpr positive
  constructor
  · rintro ⟨remainder, rfl⟩
    obtain ⟨size, rfl⟩ := Nat.dvd_of_mod_eq_zero remainder
    rw [Nat.mul_div_cancel_left size positive]
    cases negative <;> simp [mul_comm]
  · intro same
    have divides : below ∣ above := by
      have signed : (below : Int) ∣ if negative then -(above : Int) else above :=
        ⟨n, by rw [same, mul_comm]⟩
      cases negative with
      | true => exact Int.natCast_dvd_natCast.mp (Int.dvd_neg.mp signed)
      | false => exact Int.natCast_dvd_natCast.mp signed
    obtain ⟨size, rfl⟩ := divides
    rw [Nat.mul_div_cancel_left size positive]
    refine ⟨Nat.mul_mod_right below size, mul_right_cancel₀ nonzero (Eq.trans ?_ same)⟩
    cases negative <;> simp [mul_comm]

/-- The integer that a number equals is its place among the numbers. -/
theorem toInt?_eq_some_iff {x : Binary64} {n : Int} :
    x.toInt? = some n ↔ x.extent? = some ((n : ℚ) : Extent) := by
  rw [← compareInt?_eq_some_eq_iff]
  cases x with
  | nan => simp [toInt?, compareInt?]
  | infinite negative => cases negative <;> simp [toInt?, compareInt?]
  | finite negative mantissa exponent =>
      have below := power_pos two_pos (-exponent)
      have quotient := signed_div_eq_iff (mantissa * power 2 exponent) below negative n
      have signed : (if negative then -((mantissa * power 2 exponent : Nat) : Int)
            else (mantissa * power 2 exponent : Nat)) =
          (if negative then -(mantissa : Int) else mantissa) * power 2 exponent := by
        cases negative <;> simp
      rw [compareInt?, Option.some_inj, compare_eq_iff_eq, ← signed, ← quotient]
      simp [toInt?, scaled]

end Binary64

end DartModels.Number
