import DartModels.Dart.TypeName
import DartModels.Proofs.Name.Legality
import DartModels.Proofs.Schema.ReferenceTree

/-
The characters that types are spelled with.
-/

namespace DartModels.Dart

open DartModels.Name
open DartModels.Schema

/-- The characters of types, which are names with brackets and marks. -/
def isSpellingChar (c : Char) : Bool :=
  isIdentifierChar c || c == '<' || c == '>' || c == '?'

theorem isSpellingChar_of_isIdentifierChar {text : List Char}
    (all : text.all isIdentifierChar = true) : text.all isSpellingChar = true := by
  rw [List.all_eq_true] at all ⊢
  intro c member
  simp [isSpellingChar, all c member]

theorem isSpellingChar_markNullable {name : String} (nullable : Bool)
    (spelled : name.toList.all isSpellingChar = true) :
    (markNullable nullable name).toList.all isSpellingChar = true := by
  unfold markNullable
  split
  · rw [String.toList_append, List.all_append, spelled]
    decide
  · exact spelled

/-- A type is spelled without blanks or quotes if the classes in it have legal names. -/
theorem isSpellingChar_typeName {type : TypeRef}
    (legal : ∀ name ∈ type.references, Grammar.className.Legal name) :
    (typeName type).toList.all isSpellingChar = true := by
  induction type with
  | untyped nullable =>
      rw [typeName]
      decide
  | scalar kind nullable =>
      apply isSpellingChar_markNullable
      cases kind <;> decide
  | model name nullable =>
      apply isSpellingChar_markNullable
      exact isSpellingChar_of_isIdentifierChar
        (legal name List.mem_cons_self).isIdentifierChar_className
  | list nullable =>
      apply isSpellingChar_markNullable
      decide
  | listOf element nullable ih =>
      apply isSpellingChar_markNullable
      rw [String.toList_append, String.toList_append, List.all_append, List.all_append, ih legal]
      decide

end DartModels.Dart
