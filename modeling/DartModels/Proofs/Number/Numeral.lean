import DartModels.Number.Shortest

/-
The characters that numbers are written with.
-/

namespace DartModels.Number

/-- Digits, letters, a sign or a point. -/
def isNumeralChar (c : Char) : Bool := c.isAlphanum || c == '+' || c == '-' || c == '.'

def IsNumeral (text : List Char) : Prop := text.all isNumeralChar = true

instance (text : List Char) : Decidable (IsNumeral text) :=
  inferInstanceAs (Decidable (text.all isNumeralChar = true))

namespace IsNumeral

variable {text other : List Char}

theorem of_subset (numeral : IsNumeral text) (part : other ⊆ text) : IsNumeral other :=
  List.all_eq_true.mpr fun c member => List.all_eq_true.mp numeral c (part member)

theorem append (first : IsNumeral text) (second : IsNumeral other) :
    IsNumeral (text ++ other) := by
  rw [IsNumeral, List.all_append, first, second]
  rfl

theorem cons {c : Char} (own : isNumeralChar c = true) (others : IsNumeral text) :
    IsNumeral (c :: text) := by
  rw [IsNumeral, List.all_cons, own, others]
  rfl

theorem replicate_zero (count : Nat) : IsNumeral (List.replicate count '0') := by
  rw [IsNumeral, List.all_eq_true]
  intro c member
  rw [(List.mem_replicate.mp member).2]
  rfl

theorem toDigits (number : Nat) : IsNumeral (Nat.toDigits 10 number) := by
  rw [IsNumeral, List.all_eq_true]
  intro c member
  have digit := Nat.isDigit_of_mem_toDigits (by decide) (by decide) member
  simp [isNumeralChar, Char.isAlphanum, digit]

end IsNumeral

/-- A minus or nothing. -/
def minusText (negative : Bool) : List Char := if negative then ['-'] else []

theorem toList_toString_int (n : Int) :
    (toString n).toList = minusText (decide (n < 0)) ++ Nat.toDigits 10 n.natAbs := by
  cases n with
  | ofNat size =>
      change (toString size).toList = _
      rw [Nat.toString_eq_ofList_toDigits, String.toList_ofList]
      rfl
  | negSucc size =>
      change ("-" ++ toString (size + 1)).toList = _
      rw [String.toList_append, Nat.toString_eq_ofList_toDigits, String.toList_ofList]
      simp [minusText, Int.negSucc_lt_zero]

theorem isNumeral_toString_int (number : Int) : IsNumeral (toString number).toList := by
  have minus : IsNumeral (minusText (decide (number < 0))) := by
    cases decide (number < 0) <;> decide
  rw [toList_toString_int]
  exact minus.append (.toDigits number.natAbs)

namespace Binary64

theorem dropZeros_subset (digits : List Char) : dropZeros digits ⊆ digits := by
  intro c member
  rw [dropZeros, List.mem_reverse] at member
  exact List.mem_reverse.mp ((List.dropWhile_sublist _).subset member)

theorem isNumeral_exponentText (exponent : Int) : IsNumeral (exponentText exponent) := by
  have size := IsNumeral.toDigits exponent.natAbs
  unfold exponentText
  apply IsNumeral.cons rfl
  apply IsNumeral.cons
  · split <;> rfl
  · split
    · exact .cons rfl size
    · exact size

theorem isNumeral_layout {digits : List Char} (numeral : IsNumeral digits) (point : Int) :
    IsNumeral (layout digits point) := by
  have front (count : Nat) : IsNumeral (digits.take count) :=
    numeral.of_subset (List.take_subset count digits)
  have back (count : Nat) : IsNumeral (digits.drop count) :=
    numeral.of_subset (List.drop_subset count digits)
  unfold layout
  split
  next =>
    split
    · exact (IsNumeral.cons rfl (.cons rfl (.replicate_zero _))).append numeral
    · split
      · exact (numeral.append (.replicate_zero _)).append (by decide)
      · exact (front _).append (.cons rfl (back _))
  next =>
    refine ((front 1).append ?_).append (isNumeral_exponentText _)
    split
    · exact rfl
    · exact .cons rfl (back 1)

/-- A finite number is written in digits with a sign, a point and an exponent at most. -/
theorem isNumeral_text_of_isFinite {value : Binary64} (finite : value.isFinite = true) :
    IsNumeral value.text.toList := by
  cases value with
  | nan | infinite _ => cases finite
  | finite negative mantissa exponent =>
      have size : IsNumeral (sizeText mantissa exponent) := by
        unfold sizeText
        split
        · decide
        · exact isNumeral_layout ((IsNumeral.toDigits _).of_subset (dropZeros_subset _)) _
      simp only [text, String.toList_ofList]
      split
      · exact .cons rfl size
      · exact size

end Binary64

end DartModels.Number
