import DartModels.Number.Reading
import DartModels.Proofs.Text.Digits
import DartModels.Proofs.Text.Trimming

/-
Numbers at the front of texts: the characters that are read and those that are left.
-/

namespace DartModels.Number

open DartModels.Text

/-- The text has these characters after blanks and a sign or none. -/
def LeadsWith (text : String) (run : List Char) : Prop :=
  ∃ blanks sign rest, text.toList = blanks ++ (sign ++ (run ++ rest)) ∧
    (∀ c ∈ blanks, isBlank c = true) ∧ sign ∈ [[], ['+'], ['-']]

theorem LeadsWith.length_le {text : String} {run : List Char} (leads : LeadsWith text run) :
    run.length ≤ text.toList.length := by
  obtain ⟨blanks, sign, rest, split, -⟩ := leads
  simp only [split, List.length_append]
  omega

/-- Decimal digits of any script, at least one. -/
def IsDigits (run : List Char) : Prop :=
  run ≠ [] ∧ ∀ c ∈ run, (digitValue? c).isSome = true

theorem spanDigits_split (value? : DigitClass) (text : List Char) :
    ∃ run, text = run ++ (spanDigits value? text).2 ∧
      (∀ c ∈ run, (value? c).isSome = true) ∧ run.length = (spanDigits value? text).1.length := by
  have digits : ∀ c ∈ text.takeWhile fun c => (value? c).isSome, (value? c).isSome = true :=
    List.all_eq_true.mp List.all_takeWhile
  rw [spanDigits_eq]
  exact ⟨_, List.takeWhile_append_dropWhile.symm, digits,
    (List.filterMap_length_eq_length.mpr digits).symm⟩

theorem takeSign_split (text : List Char) :
    ∃ sign ∈ [[], ['+'], ['-']],
      text = sign ++ (takeSign text).2 ∧ (takeSign text).1 = (sign == ['-']) := by
  unfold takeSign
  split
  next rest => exact ⟨['-'], by simp, rfl, rfl⟩
  next rest => exact ⟨['+'], by simp, rfl, rfl⟩
  next => exact ⟨[], by simp, rfl, rfl⟩

/-- What follows the blanks and the sign of a text leads it. -/
theorem leadsWith_of_unsigned {text : String} {run rest : List Char}
    (split : (takeSign (trimStart text.toList)).2 = run ++ rest) : LeadsWith text run := by
  obtain ⟨sign, known, signed, -⟩ := takeSign_split (trimStart text.toList)
  obtain ⟨blanks, before, blank⟩ := trimStart_split text.toList
  exact ⟨blanks, sign, rest, by rw [← split, ← signed, ← before], blank, known⟩

/-- An integer that is read has a digit behind its sign. -/
theorem takeInteger_eq_some {value? : DigitClass} {text : List Char} {negative : Bool}
    {digits : List Nat} (found : takeInteger value? text = some (negative, digits)) :
    negative = (takeSign text).1 ∧ digits = (spanDigits value? (takeSign text).2).1 ∧
      digits ≠ [] := by
  unfold takeInteger at found
  dsimp only at found
  split at found
  next => cases found
  next values after nonempty spanned =>
    cases found
    exact ⟨rfl, by rw [spanned], nonempty⟩

/-- The digits that are read lead the text, and none of them is dropped. -/
theorem leadsWith_of_takeInteger {text : String} {negative : Bool} {digits : List Nat}
    (found : takeInteger digitValue? (trimStart text.toList) = some (negative, digits)) :
    ∃ run, IsDigits run ∧ LeadsWith text run ∧ run.length = digits.length := by
  obtain ⟨-, spanned, nonempty⟩ := takeInteger_eq_some found
  obtain ⟨run, split, known, length⟩ :=
    spanDigits_split digitValue? (takeSign (trimStart text.toList)).2
  rw [← spanned] at length
  refine ⟨run, ⟨?_, known⟩, leadsWith_of_unsigned split, length⟩
  rintro rfl
  exact nonempty (List.eq_nil_of_length_eq_zero length.symm)

end DartModels.Number
