import DartModels.Proofs.Number.Leading
import DartModels.Proofs.Number.Numeral

/-
Integers read from the front of texts, and their own texts, which are read back.
-/

namespace DartModels.Number

open DartModels.Text

/-! Signs and digits -/

theorem IsDigits.exists_cons {run : List Char} (digits : IsDigits run) :
    ∃ c rest, run = c :: rest ∧ (digitValue? c).isSome = true := by
  obtain ⟨nonempty, known⟩ := digits
  obtain ⟨c, rest, rfl⟩ := List.exists_cons_of_ne_nil nonempty
  exact ⟨c, rest, rfl, known c List.mem_cons_self⟩

theorem IsDigits.values_ne_nil {run : List Char} (digits : IsDigits run) :
    run.filterMap digitValue? ≠ [] := by
  obtain ⟨c, rest, rfl, known⟩ := digits.exists_cons
  obtain ⟨value, known⟩ := Option.isSome_iff_exists.mp known
  simp [known]

theorem isDigits_of_isDecimal {run : List Char} (decimal : IsDecimal run) : IsDigits run :=
  ⟨decimal.1, fun c member => by rw [digitValue?_of_isDigit (decimal.2 c member), Option.isSome_some]⟩

/-- Digits end the sign. -/
theorem takeSign_append {sign run : List Char} (known : sign ∈ [[], ['+'], ['-']])
    (digits : IsDigits run) (rest : List Char) :
    takeSign (sign ++ (run ++ rest)) = (sign == ['-'], run ++ rest) := by
  obtain ⟨c, others, rfl, digit⟩ := digits.exists_cons
  simp only [List.mem_cons, List.not_mem_nil, or_false] at known
  rcases known with rfl | rfl | rfl
  · rw [List.nil_append, List.cons_append]
    unfold takeSign
    split
    next same =>
      rw [(List.cons.inj same).1] at digit
      exact absurd digit (by decide)
    next same =>
      rw [(List.cons.inj same).1] at digit
      exact absurd digit (by decide)
    next => rfl
  · rfl
  · rfl

theorem trimStart_append {sign run : List Char} (known : sign ∈ [[], ['+'], ['-']])
    (digits : IsDigits run) (rest : List Char) :
    trimStart (sign ++ (run ++ rest)) = sign ++ (run ++ rest) := by
  obtain ⟨c, others, rfl, digit⟩ := digits.exists_cons
  simp only [List.mem_cons, List.not_mem_nil, or_false] at known
  rcases known with rfl | rfl | rfl
  · exact List.dropWhile_cons_of_neg (by simp [isBlank_of_digit digit])
  · rfl
  · rfl

/-! Integers at the front -/

/-- The integer of the longest run of digits after blanks and a sign or none. -/
def LeadingInteger (text : String) (n : Int) : Prop :=
  ∃ blanks sign run rest, text.toList = blanks ++ (sign ++ (run ++ rest)) ∧
    (∀ c ∈ blanks, isBlank c = true) ∧ sign ∈ [[], ['+'], ['-']] ∧ IsDigits run ∧
    NoDigitFirst digitValue? rest ∧
    n = signed (sign == ['-']) (ofDigits (run.filterMap digitValue?))

theorem takeInteger_append {sign run rest : List Char} (known : sign ∈ [[], ['+'], ['-']])
    (digits : IsDigits run) (ends : NoDigitFirst digitValue? rest) :
    takeInteger digitValue? (sign ++ (run ++ rest)) =
      some (sign == ['-'], run.filterMap digitValue?) := by
  rw [takeInteger, takeSign_append known digits]
  dsimp only
  rw [spanDigits_append digits.2 ends]
  split
  next same => exact absurd (Prod.mk.inj same).1 digits.values_ne_nil
  next same => rw [(Prod.mk.inj same).1]

/-- What is read is the leading integer. -/
theorem takeInteger_of_leadingInteger {text : String} {n : Int} (leads : LeadingInteger text n) :
    ∃ negative digits, takeInteger digitValue? (trimStart text.toList) = some (negative, digits) ∧
      n = signed negative (ofDigits digits) := by
  obtain ⟨blanks, sign, run, rest, split, blank, known, digits, ends, value⟩ := leads
  refine ⟨_, _, ?_, value⟩
  rw [split, trimStart, List.dropWhile_append_of_pos blank, ← trimStart, trimStart_append known digits,
    takeInteger_append known digits ends]

theorem leadingInteger_of_takeInteger {text : String} {negative : Bool} {digits : List Nat}
    (found : takeInteger digitValue? (trimStart text.toList) = some (negative, digits)) :
    LeadingInteger text (signed negative (ofDigits digits)) := by
  obtain ⟨sign, known, split, minus⟩ := takeSign_split (trimStart text.toList)
  obtain ⟨rfl, spanned, nonempty⟩ := takeInteger_eq_some found
  rw [spanDigits_eq] at spanned
  subst spanned
  obtain ⟨blanks, before, blank⟩ := trimStart_split text.toList
  refine ⟨blanks, sign, _, _, ?_, blank, known, ⟨?_, List.all_eq_true.mp List.all_takeWhile⟩,
    noDigitFirst_dropWhile digitValue? (takeSign (trimStart text.toList)).2, by rw [minus]⟩
  · rw [List.takeWhile_append_dropWhile, ← split, ← before]
  · intro none
    exact nonempty (by rw [none]; rfl)

/-! Texts of integers -/

theorem minusText_mem (negative : Bool) : minusText negative ∈ [[], ['+'], ['-']] := by
  cases negative <;> simp [minusText]

theorem minusText_beq (negative : Bool) : (minusText negative == ['-']) = negative := by
  cases negative <;> rfl

/-- Zero, or a minus or nothing and digits of which the first is not zero. -/
def IsIntegerText (text : List Char) : Prop :=
  text = ['0'] ∨ ∃ negative c rest, text = minusText negative ++ c :: rest ∧
    c ≠ '0' ∧ ∀ digit ∈ c :: rest, digit.isDigit = true

/-- The first digit of a number is zero for zero alone. -/
theorem toDigits_first {number : Nat} (positive : 0 < number) :
    ∃ c rest, Nat.toDigits 10 number = c :: rest ∧ c ≠ '0' := by
  induction number using Nat.strongRecOn with
  | ind number inductionHypothesis =>
      rw [Nat.toDigits_eq_if (by decide)]
      split
      next small => exact ⟨_, [], rfl, fun zero => positive.ne' (Nat.digitChar_eq_zero.mp zero)⟩
      next large =>
        obtain ⟨c, rest, front, nonzero⟩ := inductionHypothesis (number / 10) (by omega) (by omega)
        exact ⟨c, rest ++ [_], by rw [front, List.cons_append], nonzero⟩

theorem isIntegerText_toString (n : Int) : IsIntegerText (toString n).toList := by
  rw [toList_toString_int]
  rcases n.natAbs.eq_zero_or_pos with zero | positive
  · obtain rfl := Int.natAbs_eq_zero.mp zero
    exact .inl rfl
  · obtain ⟨c, rest, front, nonzero⟩ := toDigits_first positive
    refine .inr ⟨decide (n < 0), c, rest, by rw [front], nonzero, ?_⟩
    rw [← front]
    exact (isDecimal_toDigits n.natAbs).2

theorem signed_natAbs (n : Int) : signed (decide (n < 0)) n.natAbs = n := by
  by_cases negative : n < 0
  · simp only [signed, negative, decide_true, if_true]
    omega
  · simp only [signed, negative, decide_false, Bool.false_eq_true, if_false]
    omega

theorem natAbs_signed (negative : Bool) (size : Nat) : (signed negative size).natAbs = size := by
  cases negative <;> simp [signed]

theorem takeInteger_toString (n : Int) :
    takeInteger digitValue? (trimStart (toString n).toList) =
      some (decide (n < 0), (Nat.toDigits 10 n.natAbs).filterMap digitValue?) := by
  have digits := isDigits_of_isDecimal (isDecimal_toDigits n.natAbs)
  have whole := takeInteger_append (minusText_mem (decide (n < 0))) digits (noDigitFirst_nil _)
  have first := trimStart_append (minusText_mem (decide (n < 0))) digits []
  rw [List.append_nil] at whole first
  rw [toList_toString_int, first, whole, minusText_beq]

/-! The limit on digits -/

theorem digitValue?_lt {c : Char} {value : Nat} (known : digitValue? c = some value) : value < 10 := by
  obtain ⟨start, -, rfl⟩ := Option.map_eq_some_iff.mp known
  exact Nat.mod_lt _ (by decide)

theorem ofDigits_lt {values : List Nat} (small : ∀ value ∈ values, value < 10) :
    ofDigits values < 10 ^ values.length := by
  induction values using List.reverseRecOn with
  | nil => exact Nat.one_pos
  | append_singleton values value inductionHypothesis =>
      have front := inductionHypothesis fun other member => small other (by simp [member])
      have last := small value (by simp)
      rw [ofDigits, List.foldl_append, ← ofDigits]
      simp only [List.foldl_cons, List.foldl_nil, List.length_append, List.length_singleton,
        Nat.pow_succ]
      omega

theorem digits_lt_of_takeInteger {text : List Char} {negative : Bool} {digits : List Nat}
    (found : takeInteger digitValue? text = some (negative, digits)) :
    ∀ digit ∈ digits, digit < 10 := by
  obtain ⟨-, spanned, -⟩ := takeInteger_eq_some found
  rw [spanDigits_eq] at spanned
  subst spanned
  intro digit member
  obtain ⟨c, -, known⟩ := List.mem_filterMap.mp member
  exact digitValue?_lt known

/-- A number takes no more digits than it is read from. -/
theorem length_toDigits_ofDigits_le {values : List Nat} (small : ∀ value ∈ values, value < 10)
    {limit : Nat} (positive : 0 < limit) (few : values.length ≤ limit) :
    (Nat.toDigits 10 (ofDigits values)).length ≤ limit :=
  (Nat.length_toDigits_le_iff (by decide) positive).mpr
    (Nat.lt_of_lt_of_le (ofDigits_lt small) (Nat.pow_le_pow_right (by decide) few))

theorem ofSignedDigits_toDigits {n : Int} (few : (Nat.toDigits 10 n.natAbs).length ≤ maxDigits) :
    ofSignedDigits (decide (n < 0)) ((Nat.toDigits 10 n.natAbs).filterMap digitValue?) = .ok n := by
  have length := Nat.le_trans (List.length_filterMap_le digitValue? (Nat.toDigits 10 n.natAbs)) few
  rw [ofSignedDigits, if_neg (Nat.not_lt.mpr length),
    ofDigits_filterMap (isDecimal_toDigits n.natAbs).2, decimalValue_toDigits, signed_natAbs]

end DartModels.Number
