import DartModels.Dart.Source
import DartModels.Dart.Structure
import DartModels.Proofs.Name.Legality
import DartModels.Proofs.Text.Trimming

/-
The structural check finds the head of a class that is written with a legal name.
-/

namespace DartModels.Dart

open DartModels.Name
open DartModels.Schema
open DartModels.Text

theorem isWordChar_of_isUpper {c : Char} (upper : c.isUpper = true) : isWordChar c = true := by
  have capitals : (0x41, 0x5A) ∈ wordRanges := by decide
  have code : 0x41 ≤ c.toNat ∧ c.toNat ≤ 0x5A := of_decide_eq_true upper
  rw [isWordChar, CharRanges.contains, List.any_eq_true]
  exact ⟨_, capitals, by simpa using code⟩

/-- The words at the head of a class declare one if a legal name follows. -/
theorem startsDeclaration_head {name : String} (legal : Grammar.className.Legal name)
    (rest : List Char) :
    startsDeclaration ("abstract class ".toList ++ (name.toList ++ rest)) = true := by
  have spelled := legal.spelled
  cases chars : name.toList with
  | nil =>
      rw [chars] at spelled
      cases spelled
  | cons first more =>
      rw [chars, Grammar.spells, Bool.and_eq_true] at spelled
      have upper : first.isUpper = true := spelled.1
      have named : (afterWord? "class".toList ("class ".toList ++ (first :: more ++ rest))).bind
          afterBlank? = some (first :: (more ++ rest)) := by
        change some (trimStart (first :: (more ++ rest))) = _
        rw [trimStart, List.dropWhile_cons_of_neg]
        have letter : first.isAlphanum = true := by simp [Char.isAlphanum, Char.isAlpha, upper]
        simp [isBlank_of_isAlphanum letter]
      change startsClass ("class ".toList ++ (first :: more ++ rest)) = true
      rw [startsClass, named]
      exact isWordChar_of_isUpper upper

theorem laterDeclaration_append {text : List Char} (later : laterDeclaration text = true)
    (before : List Char) : laterDeclaration (before ++ text) = true := by
  induction before with
  | nil => exact later
  | cons c before ih => rw [List.cons_append, laterDeclaration, ih, Bool.or_true]

theorem laterDeclaration_head {name : String} (legal : Grammar.className.Legal name)
    (rest : List Char) :
    laterDeclaration
      ('\n' :: (("abstract class " ++ name ++ " with _$" ++ name ++ " \x7b").toList ++ rest)) =
        true := by
  rw [laterDeclaration, Bool.or_eq_true]
  refine .inl ?_
  simp only [String.toList_append, List.append_assoc]
  exact startsDeclaration_head legal _

/-- Source with a legally named class in it declares a class. -/
theorem declaresClass_source {file : ModelFile} {model : Model} {others : List Model}
    (models : file.models = model :: others) (legal : Grammar.className.Legal model.name) :
    declaresClass (source file).toList = true := by
  rw [declaresClass, source, sourceLines, unlines_append, String.toList_append, models,
    List.flatMap_cons, modelLines, Bool.or_eq_true]
  -- directives, an empty line and an annotation stand before the head of the class
  refine .inr (laterDeclaration_append ?_ _)
  simp only [List.cons_append, toList_unlines_cons]
  exact laterDeclaration_append (laterDeclaration_head legal _)
    ('\n' :: "@Freezed(fromJson: true, toJson: true)".toList)

end DartModels.Dart
