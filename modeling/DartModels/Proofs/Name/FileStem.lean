import DartModels.Name.ClassName
import DartModels.Proofs.Name.Words

/-
The characters of file stems.
-/

namespace DartModels.Name

theorem isAlphanum_toLower {c : Char} (alphanumeric : c.isAlphanum = true) :
    c.toLower.isAlphanum = true := by
  by_cases letter : c.isAlpha = true
  · simp [Char.isAlphanum, letter]
  · have small : ¬c.isUpper = true := fun upper => letter (by simp [Char.isAlpha, upper])
    rw [Char.toLower_eq_of_not_isUpper small, alphanumeric]

theorem isIdentifierChar_of_mem_joinSeparators {text : List Char} {c : Char}
    (member : c ∈ joinSeparators text) : isIdentifierChar c = true := by
  induction text with
  | nil => cases member
  | cons first rest ih =>
      rw [joinSeparators] at member
      split at member
      next alphanumeric =>
        rcases List.mem_cons.mp member with rfl | later
        · simp [isIdentifierChar, alphanumeric]
        · exact ih later
      next =>
        split at member
        · exact ih member
        · rcases List.mem_cons.mp member with rfl | later
          · rfl
          · exact ih later

theorem isIdentifierChar_toLower {c : Char} (own : isIdentifierChar c = true) :
    isIdentifierChar c.toLower = true := by
  rcases Bool.or_eq_true_iff.mp own with alphanumeric | underscore
  · simp [isIdentifierChar, isAlphanum_toLower alphanumeric]
  · rw [beq_iff_eq] at underscore
    subst underscore
    rfl

theorem trimUnderscores_subset (text : List Char) : trimUnderscores text ⊆ text := by
  intro c member
  have inner := (List.dropWhile_sublist _).subset (List.mem_reverse.mp member)
  exact (List.dropWhile_sublist _).subset (List.mem_reverse.mp inner)

theorem isIdentifierChar_snakeChars (text : List Char) :
    (snakeChars text).all isIdentifierChar = true := by
  have trimmed : (trimUnderscores
      ((joinSeparators (splitBoundaries text)).map Char.toLower)).all isIdentifierChar = true := by
    rw [List.all_eq_true]
    intro c member
    obtain ⟨original, inside, rfl⟩ := List.mem_map.mp (trimUnderscores_subset _ member)
    exact isIdentifierChar_toLower (isIdentifierChar_of_mem_joinSeparators inside)
  rw [snakeChars]
  generalize trimUnderscores _ = stem at trimmed
  cases stem with
  | nil => rfl
  | cons first rest =>
      rw [guardDigit]
      split
      · rw [List.all_cons, trimmed]
        rfl
      · exact trimmed

theorem isIdentifierChar_fileStem (rootName : String) :
    (fileStem rootName).toList.all isIdentifierChar = true := by
  unfold fileStem
  dsimp only
  split
  · decide
  · rw [snake, String.toList_ofList]
    exact isIdentifierChar_snakeChars _

end DartModels.Name
