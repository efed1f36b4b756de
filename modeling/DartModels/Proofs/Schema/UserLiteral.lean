import DartModels.Proofs.Checked
import DartModels.Proofs.Number.Leading
import DartModels.Proofs.Schema.FieldContent

/-
What the texts that a user configures lead to: a text that is unusable for a kind of field leads to
the zero of the kind, and only an integer with too many digits leads nowhere.
-/

namespace DartModels.Schema

open DartModels.Dart
open DartModels.Document
open DartModels.Number
open DartModels.Options
open DartModels.Text

namespace Default

/-- The literal of the value that counts as nothing for a kind. -/
def zero : Scalar → String
  | .string => StringLiteral.literal ""
  | .integer => "0"
  | .real => "0.0"
  | .boolean => "false"

/-- A blank text leads to the empty list. -/
theorem listLiteral_of_blank {raw : String} (blank : isBlankText raw = true) :
    listLiteral raw = "const []" := by
  have nothing : trimStart raw.toList = [] :=
    List.dropWhile_eq_nil_iff.mpr (List.all_eq_true.mp blank)
  rw [listLiteral, trimmed, trim, nothing]
  rfl

/-- Only the digits that lead the text can make it impossible to take an integer from it. -/
theorem integerLiteral_eq_error {raw : String} {excess : TooManyDigits}
    (failed : integerLiteral raw = .error excess) :
    ∃ run, IsDigits run ∧ LeadsWith raw run ∧ maxDigits < run.length ∧ excess = ⟨run.length⟩ := by
  unfold integerLiteral at failed
  split at failed
  next => cases failed
  next negative digits found =>
    obtain ⟨run, isDigits, leads, length⟩ := leadsWith_of_takeInteger found
    unfold ofSignedDigits at failed
    split at failed
    next long =>
      cases failed
      exact ⟨run, isDigits, leads, length ▸ long, by rw [length]⟩
    next => cases failed

/-- Only an integer literal can be missing. -/
theorem literal?_eq_error {defaults : Defaults} {type : TypeRef} {excess : TooManyDigits}
    (failed : literal? defaults type = .error excess) :
    integerLiteral defaults.intValue = .error excess := by
  cases type with
  | scalar kind _ =>
      cases kind with
      | integer =>
          cases read : integerLiteral defaults.intValue with
          | ok text =>
              rw [literal?, scalarLiteral, read] at failed
              cases failed
          | error other =>
              rw [literal?, scalarLiteral, read] at failed
              cases failed
              rfl
      | _ => cases failed
  | _ => cases failed

end Default

end DartModels.Schema
