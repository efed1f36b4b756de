import DartModels.Proofs.Number.ReadBack
import DartModels.Proofs.Number.RealForm

/-
The texts of finite doubles: their form, and that the doubles are read back from them.
-/

namespace DartModels.Number

open DartModels.Text

/-- The number that a text writes. -/
def RealForm.value (form : RealForm) : ℚ := form.digits * 10 ^ form.place

namespace Binary64

/-! Layouts of digits -/

/-- The text has the form of a real, and writes the digits with this power of ten for the last
one. -/
def WritesReal (text digits : List Char) (place : Int) : Prop :=
  ∃ form : RealForm, text = form.text ∧ form.value = decimalValue digits * 10 ^ place

theorem zeros_isDigit (count : Nat) : ∀ c ∈ List.replicate count '0', c.isDigit = true := by
  intro c member
  rw [List.eq_of_mem_replicate member]
  rfl

section Layout

variable {digits : List Char} (decimal : IsDecimal digits)

include decimal

/-- Zeros between the point and the digits. -/
theorem writesReal_below (count : Nat) :
    WritesReal ('0' :: '.' :: List.replicate count '0' ++ digits) digits
      (-(count : Int) - digits.length) := by
  have fraction : ∀ c ∈ List.replicate count '0' ++ digits, c.isDigit = true :=
    List.forall_mem_append.mpr ⟨zeros_isDigit count, decimal.2⟩
  have some : List.replicate count '0' ++ digits ≠ [] :=
    List.append_ne_nil_of_right_ne_nil _ decimal.1
  refine ⟨⟨['0'], List.replicate count '0' ++ digits, none, ⟨by simp, by simp⟩, fraction, .inl some⟩,
    ?_, ?_⟩
  · simp [RealForm.text, RealForm.fractionText, RealForm.exponentText, decimal.1]
  · rw [RealForm.value, RealForm.digits, RealForm.place, List.singleton_append,
      decimalValue_zero_cons, decimalValue_append, decimalValue_replicate_zero, Nat.zero_mul,
      Nat.zero_add]
    simp only [List.length_append, List.length_replicate, Option.elim_none]
    congr 2
    omega

/-- Zeros between the digits and the point. -/
theorem writesReal_above (count : Nat) :
    WritesReal (digits ++ List.replicate count '0' ++ ['.', '0']) digits count := by
  have whole : IsDecimal (digits ++ List.replicate count '0') :=
    ⟨List.append_ne_nil_of_left_ne_nil decimal.1 _,
      List.forall_mem_append.mpr ⟨decimal.2, zeros_isDigit count⟩⟩
  refine ⟨⟨digits ++ List.replicate count '0', ['0'], none, whole, zeros_isDigit 1, .inl (by simp)⟩,
    ?_, ?_⟩
  · simp [RealForm.text, RealForm.fractionText, RealForm.exponentText]
  · have last : decimalValue ['0'] = 0 := decimalValue_replicate_zero 1
    rw [RealForm.value, RealForm.digits, RealForm.place, decimalValue_append, decimalValue_append,
      decimalValue_replicate_zero, last]
    simp only [List.length_replicate, List.length_singleton, Option.elim_none, Nat.add_zero,
      Nat.cast_mul, Nat.cast_pow, Nat.cast_ofNat, zpow_natCast]
    ring

/-- The point between the digits. -/
theorem writesReal_within {count : Nat} (some : 0 < count) (less : count < digits.length) :
    WritesReal (digits.take count ++ '.' :: digits.drop count) digits
      ((count : Int) - digits.length) := by
  have whole : IsDecimal (digits.take count) := by
    refine ⟨?_, fun c member => decimal.2 c (List.mem_of_mem_take member)⟩
    simp [decimal.1, some.ne']
  have fraction : digits.drop count ≠ [] := by
    simpa using less
  refine ⟨⟨digits.take count, digits.drop count, none, whole,
    fun c member => decimal.2 c (List.mem_of_mem_drop member), .inl fraction⟩, ?_, ?_⟩
  · simp [RealForm.text, RealForm.fractionText, RealForm.exponentText, less]
  · rw [RealForm.value, RealForm.digits, RealForm.place, List.take_append_drop, List.length_drop,
      Option.elim_none]
    congr 2
    omega

/-- The point after the first digit, and an exponent. -/
theorem writesReal_exponent (exponent : Int) :
    WritesReal
      (digits.take 1 ++ (if (digits.drop 1).isEmpty then [] else '.' :: digits.drop 1) ++
        exponentText exponent)
      digits (exponent + 1 - digits.length) := by
  obtain ⟨form, written, value⟩ := exists_exponent exponent
  have length := List.length_pos_iff.mpr decimal.1
  have whole : IsDecimal (digits.take 1) := by
    refine ⟨?_, fun c member => decimal.2 c (List.mem_of_mem_take member)⟩
    simp [decimal.1]
  refine ⟨⟨digits.take 1, digits.drop 1, form, whole,
    fun c member => decimal.2 c (List.mem_of_mem_drop member), .inr rfl⟩, ?_, ?_⟩
  · rw [written, List.append_assoc]
    rfl
  · rw [RealForm.value, RealForm.digits, RealForm.place, List.take_append_drop, List.length_drop,
      Option.elim_some, value]
    congr 2
    omega

/-- Every layout writes its digits with the point at the given place. -/
theorem writesReal_layout (point : Int) :
    WritesReal (layout digits point) digits (point - digits.length) := by
  unfold layout
  split
  next near =>
    split
    next below =>
      have writes := writesReal_below decimal (-point).toNat
      rwa [show -((-point).toNat : Int) = point by omega] at writes
    next above =>
      split
      next within =>
        have writes := writesReal_above decimal (point.toNat - digits.length)
        rwa [show ((point.toNat - digits.length : Nat) : Int) = point - digits.length by omega]
          at writes
      next beyond =>
        have writes := writesReal_within decimal (show 0 < point.toNat by omega) (by omega)
        rwa [show (point.toNat : Int) = point by omega] at writes
  next =>
    have writes := writesReal_exponent decimal (point - 1)
    rwa [sub_add_cancel] at writes

end Layout

/-! Zeros at the end -/

theorem dropZeros_append (digits : List Char) :
    ∃ count, digits = dropZeros digits ++ List.replicate count '0' := by
  have split : digits.reverse.takeWhile (· == '0') ++ digits.reverse.dropWhile (· == '0') =
      digits.reverse := List.takeWhile_append_dropWhile
  obtain ⟨count, zeros⟩ : ∃ count,
      digits.reverse.takeWhile (· == '0') = List.replicate count '0' := by
    refine ⟨_, List.eq_replicate_of_mem fun c member => ?_⟩
    have zero := List.all_eq_true.mp List.all_takeWhile c member
    exact eq_of_beq zero
  rw [zeros] at split
  refine ⟨count, ?_⟩
  rw [← List.reverse_inj, ← split, List.reverse_append, List.reverse_replicate, dropZeros,
    List.reverse_reverse]

/-! Texts of doubles -/

theorem shortest_pos {mantissa : Nat} {exponent : Int} (fits : Fits mantissa exponent)
    (nonzero : mantissa ≠ 0) : 0 < (shortest mantissa exponent).digits := by
  apply Nat.pos_of_ne_zero
  intro none
  have own := ofDecimal_shortest fits false
  rw [none, ofDecimal, if_pos rfl, zero] at own
  cases own
  exact nonzero rfl

/-- The layout of a decimal writes it without the zeros at its end. -/
theorem writesReal_decimal {decimal : Decimal} (positive : 0 < decimal.digits) :
    ∃ form : RealForm,
      layout (dropZeros (Nat.toDigits 10 decimal.digits))
          ((Nat.toDigits 10 decimal.digits).length + decimal.exponent) = form.text ∧
        form.value = decimal.digits * 10 ^ decimal.exponent := by
  have all := isDecimal_toDigits decimal.digits
  have value := decimalValue_toDigits decimal.digits
  obtain ⟨count, split⟩ := dropZeros_append (Nat.toDigits 10 decimal.digits)
  generalize dropZeros (Nat.toDigits 10 decimal.digits) = front at split ⊢
  rw [split] at all value ⊢
  rw [decimalValue_append, decimalValue_replicate_zero, Nat.add_zero, List.length_replicate] at value
  have some : IsDecimal front := by
    refine ⟨?_, fun c member => all.2 c (List.mem_append_left _ member)⟩
    rintro rfl
    rw [← value] at positive
    simp [decimalValue] at positive
  obtain ⟨form, text, same⟩ := writesReal_layout some
    ((front ++ List.replicate count '0').length + decimal.exponent)
  refine ⟨form, text, same.trans ?_⟩
  rw [← value, List.length_append, List.length_replicate, Nat.cast_mul, Nat.cast_pow, Nat.cast_ofNat,
    mul_assoc, ← zpow_natCast, ← zpow_add₀ (by norm_num)]
  congr 2
  omega

/-- The size of a double is written in the form of a real that is read as the double. -/
theorem exists_realForm {mantissa : Nat} {exponent : Int} (fits : Fits mantissa exponent) :
    ∃ form : RealForm, sizeText mantissa exponent = form.text ∧
      ∀ negative, ofDecimal negative form.digits form.place = .finite negative mantissa exponent := by
  unfold sizeText
  split
  next zero =>
    refine ⟨⟨['0'], ['0'], none, ⟨by simp, zeros_isDigit 1⟩, zeros_isDigit 1, .inl (by simp)⟩, rfl,
      fun negative => ofDecimal_of_fits negative fits ?_⟩
    rw [zero, Nat.cast_zero, zero_mul]
    exact mul_eq_zero_of_left (Nat.cast_eq_zero.mpr (decimalValue_replicate_zero 2)) _
  next nonzero =>
    have positive := shortest_pos fits nonzero
    obtain ⟨form, text, value⟩ := writesReal_decimal positive
    have written : 0 < form.digits := by
      apply Nat.pos_of_ne_zero
      intro none
      rw [RealForm.value, none, Nat.cast_zero, zero_mul] at value
      have decimal : ((shortest mantissa exponent).digits : ℚ) *
          10 ^ (shortest mantissa exponent).exponent > 0 := by positivity
      exact decimal.ne value
    refine ⟨form, text, fun negative => ?_⟩
    rw [← ofDecimal_shortest fits negative]
    exact ofDecimal_eq_of_eq negative written positive value

/-- A minus or nothing, digits, and a fraction or an exponent or both. -/
def IsRealText (text : List Char) : Prop :=
  ∃ negative, ∃ form : RealForm, text = minusText negative ++ form.text

/-- The text of a double has the form of a real and is read as the double. -/
def ReadsBack (value : Binary64) : Prop :=
  IsRealText value.text.toList ∧
    takeReal digitValue? (trimStart value.text.toList) = some (value, [])

theorem readsBack_of_fits (negative : Bool) {mantissa : Nat} {exponent : Int}
    (fits : Fits mantissa exponent) : ReadsBack (.finite negative mantissa exponent) := by
  obtain ⟨form, size, read⟩ := exists_realForm fits
  have written : (text (.finite negative mantissa exponent)).toList =
      minusText negative ++ form.text := by
    rw [text, String.toList_ofList, size]
    cases negative <;> rfl
  have first := trimStart_append (minusText_mem negative) (isDigits_of_isDecimal form.wholeDecimal)
    (form.fractionText ++ form.exponentText)
  rw [← RealForm.text] at first
  exact ⟨⟨negative, form, written⟩, by rw [written, first, form.takeReal_text, read]⟩

/-- What is read from any text reads back, unless it is infinite. -/
theorem readsBack_of_takeReal {value? : DigitClass} {text rest : List Char} {value : Binary64}
    (found : takeReal value? text = some (value, rest)) (finite : value.isFinite = true) :
    value.ReadsBack := by
  obtain ⟨negative, digits, place, made⟩ := takeReal_eq_ofDecimal found
  cases value with
  | nan | infinite _ => cases finite
  | finite sign mantissa exponent => exact readsBack_of_fits sign (fits_of_ofDecimal made.symm)

end Binary64

end DartModels.Number
