import DartModels.Number.Shortest
import DartModels.Proofs.Number.IntegerText

/-
Decimal texts of doubles in their parts, and what is read from them.
-/

namespace DartModels.Number

open DartModels.Text

theorem spanDigits_of_isDigit {run rest : List Char} (digits : ∀ c ∈ run, c.isDigit = true)
    (ends : NoDigitFirst digitValue? rest) :
    spanDigits digitValue? (run ++ rest) = (run.filterMap digitValue?, rest) :=
  spanDigits_append
    (fun c member => by rw [digitValue?_of_isDigit (digits c member), Option.isSome_some]) ends

/-! Exponents -/

/-- An exponent has a sign and digits. -/
structure Exponent where
  negative : Bool
  run : List Char
  decimal : IsDecimal run

namespace Exponent

def text (exponent : Exponent) : List Char :=
  'e' :: (if exponent.negative then '-' else '+') :: exponent.run

def value (exponent : Exponent) : Int := signed exponent.negative (decimalValue exponent.run)

theorem takeExponent_text (exponent : Exponent) :
    takeExponent digitValue? exponent.text = some (exponent.value, []) := by
  obtain ⟨negative, run, decimal⟩ := exponent
  have sign : takeSign ((if negative then '-' else '+') :: run) = (negative, run) := by
    cases negative <;> rfl
  have spanned := spanDigits_of_isDigit decimal.2 (noDigitFirst_nil digitValue?)
  rw [List.append_nil] at spanned
  rw [text, takeExponent, if_pos (.inl rfl), sign]
  dsimp only
  rw [spanned]
  split
  next none => exact absurd (Prod.mk.inj none).1 (isDigits_of_isDecimal decimal).values_ne_nil
  next same =>
    obtain ⟨rfl, rfl⟩ := Prod.mk.inj same
    rw [ofDigits_filterMap decimal.2, value]

end Exponent

/-- Every exponent is written in this form. -/
theorem exists_exponent (exponent : Int) :
    ∃ form : Exponent, Binary64.exponentText exponent = form.text ∧ form.value = exponent := by
  have size := isDecimal_toDigits exponent.natAbs
  have value := decimalValue_toDigits exponent.natAbs
  by_cases short : (Nat.toDigits 10 exponent.natAbs).length < 2
  · refine ⟨⟨decide (exponent < 0), '0' :: Nat.toDigits 10 exponent.natAbs,
      List.cons_ne_nil _ _, List.forall_mem_cons.mpr ⟨rfl, size.2⟩⟩, ?_, ?_⟩
    · simp [Binary64.exponentText, Exponent.text, short]
    · rw [Exponent.value, decimalValue_zero_cons, value, signed_natAbs]
  · refine ⟨⟨decide (exponent < 0), Nat.toDigits 10 exponent.natAbs, size⟩, ?_, ?_⟩
    · simp [Binary64.exponentText, Exponent.text, short]
    · rw [Exponent.value, value, signed_natAbs]

/-! Whole texts -/

/-- Digits, and a fraction or an exponent or both. -/
structure RealForm where
  whole : List Char
  fraction : List Char
  exponent? : Option Exponent
  wholeDecimal : IsDecimal whole
  fractionDigits : ∀ c ∈ fraction, c.isDigit = true
  marked : fraction ≠ [] ∨ exponent?.isSome = true

namespace RealForm

def fractionText (form : RealForm) : List Char :=
  if form.fraction.isEmpty then [] else '.' :: form.fraction

def exponentText (form : RealForm) : List Char := form.exponent?.elim [] Exponent.text

def text (form : RealForm) : List Char := form.whole ++ (form.fractionText ++ form.exponentText)

/-- All digits as one number. -/
def digits (form : RealForm) : Nat := decimalValue (form.whole ++ form.fraction)

/-- The power of ten that the last digit counts. -/
def place (form : RealForm) : Int := form.exponent?.elim 0 Exponent.value - form.fraction.length

theorem exponentText_noDigitFirst (form : RealForm) :
    NoDigitFirst digitValue? form.exponentText := by
  unfold exponentText
  cases form.exponent? with
  | none => exact noDigitFirst_nil digitValue?
  | some exponent => exact noDigitFirst_cons (by decide) _

theorem fractionText_noDigitFirst (form : RealForm) :
    NoDigitFirst digitValue? (form.fractionText ++ form.exponentText) := by
  unfold fractionText
  split
  · exact form.exponentText_noDigitFirst
  · exact noDigitFirst_cons (by decide) _

theorem takeFraction_text (form : RealForm) :
    (takeFraction digitValue? 0 (form.fractionText ++ form.exponentText)).getD
        ([], form.fractionText ++ form.exponentText) =
      (form.fraction.filterMap digitValue?, form.exponentText) := by
  unfold fractionText
  split
  next none =>
    have noPoint : takeFraction digitValue? 0 form.exponentText = Option.none := by
      unfold exponentText
      cases form.exponent? <;> rfl
    rw [List.nil_append, noPoint, Option.getD_none, List.isEmpty_iff.mp none]
    rfl
  next =>
    rw [List.cons_append, takeFraction,
      spanDigits_of_isDigit form.fractionDigits form.exponentText_noDigitFirst]
    rfl

theorem takeExponent_text (form : RealForm) :
    (takeExponent digitValue? form.exponentText).getD (0, form.exponentText) =
      (form.exponent?.elim 0 Exponent.value, []) := by
  unfold exponentText
  cases form.exponent? with
  | none => rfl
  | some exponent =>
      rw [Option.elim_some, Option.elim_some, Exponent.takeExponent_text, Option.getD_some]

theorem ofParts_values (form : RealForm) (negative : Bool) :
    ofParts negative (form.whole.filterMap digitValue?) (form.fraction.filterMap digitValue?)
        (form.exponent?.elim 0 Exponent.value) =
      Binary64.ofDecimal negative form.digits form.place := by
  have all : ∀ c ∈ form.whole ++ form.fraction, c.isDigit = true :=
    List.forall_mem_append.mpr ⟨form.wholeDecimal.2, form.fractionDigits⟩
  rw [ofParts, ← List.filterMap_append, ofDigits_filterMap all,
    length_filterMap_digitValue? form.fractionDigits, digits, place]

/-- What is read from the text is the double of its digits. -/
theorem takeReal_text (form : RealForm) (negative : Bool) :
    takeReal digitValue? (minusText negative ++ form.text) =
      some (Binary64.ofDecimal negative form.digits form.place, []) := by
  have whole := isDigits_of_isDecimal form.wholeDecimal
  have some : (form.whole.filterMap digitValue?).isEmpty = false := by
    simpa using whole.values_ne_nil
  rw [takeReal, text, takeSign_append (minusText_mem negative) whole, minusText_beq]
  dsimp only
  rw [spanDigits_of_isDigit form.wholeDecimal.2 form.fractionText_noDigitFirst]
  simp only [some, Bool.false_eq_true, if_false, Bool.false_and]
  rw [form.takeFraction_text, form.takeExponent_text, form.ofParts_values]

end RealForm

/-- Every double that is read is a decimal rounded. -/
theorem takeReal_eq_ofDecimal {value? : DigitClass} {text rest : List Char} {value : Binary64}
    (found : takeReal value? text = some (value, rest)) :
    ∃ negative digits place, value = Binary64.ofDecimal negative digits place := by
  unfold takeReal at found
  dsimp only at found
  split_ifs at found <;> cases found <;> exact ⟨_, _, _, rfl⟩

end DartModels.Number
