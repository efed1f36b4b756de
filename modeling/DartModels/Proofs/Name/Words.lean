import DartModels.Name.Casing
import DartModels.Proofs.Name.Legality
import Mathlib

/-
The words of a text and the class names that are made of them.
-/

namespace DartModels.Name

/-- A word holds ASCII letters and digits, and one of them at least. -/
structure IsWord (word : List Char) : Prop where
  nonempty : word ≠ []
  alphanumeric : word.all Char.isAlphanum = true

theorem isWord_of_mem_pushWord {word : List Char} {words : List (List Char)}
    (alphanumeric : word.all Char.isAlphanum = true) (others : ∀ other ∈ words, IsWord other) :
    ∀ other ∈ pushWord word words, IsWord other := by
  unfold pushWord
  split
  next => exact others
  next filled =>
    intro other member
    rcases List.mem_cons.mp member with rfl | later
    · exact ⟨fun empty => filled (List.isEmpty_iff.mpr empty), alphanumeric⟩
    · exact others other later

/-- What is cut off at the front is a word or empty, and the rest are words. -/
theorem cutWords_isWord (text : List Char) :
    (cutWords text).1.all Char.isAlphanum = true ∧ ∀ word ∈ (cutWords text).2, IsWord word := by
  induction text with
  | nil => simp [cutWords]
  | cons c rest ih =>
      obtain ⟨first, others⟩ := ih
      have pushed := isWord_of_mem_pushWord first others
      simp only [cutWords]
      split
      next => exact ⟨rfl, pushed⟩
      next letter =>
        have alphanumeric : c.isAlphanum = true := by simpa using letter
        split
        · exact ⟨by simp [alphanumeric], pushed⟩
        · exact ⟨by simp [alphanumeric, first], others⟩

theorem isWord_of_mem_words {text word : List Char} (member : word ∈ words text) : IsWord word :=
  isWord_of_mem_pushWord (cutWords_isWord text).1 (cutWords_isWord text).2 word member

theorem isUpper_or_isDigit_toUpper {c : Char} (alphanumeric : c.isAlphanum = true) :
    c.toUpper.isUpper = true ∨ c.toUpper.isDigit = true := by
  by_cases letter : c.isAlpha = true
  · exact Or.inl (by rw [Char.isUpper_toUpper_eq_isAlpha, letter])
  · have digit : c.isDigit = true := by simpa [Char.isAlphanum, letter] using alphanumeric
    have small : ¬ c.isLower = true := fun lower => letter (by simp [Char.isAlpha, lower])
    exact Or.inr (by rw [Char.toUpper_eq_of_not_isLower small, digit])

theorem isAlphanum_of_isUpper_or_isDigit {c : Char} (kind : c.isUpper = true ∨ c.isDigit = true) :
    c.isAlphanum = true := by
  rcases kind with upper | digit
  · simp [Char.isAlphanum, Char.isAlpha, upper]
  · simp [Char.isAlphanum, digit]

/-- A capitalized word begins with a capital or a digit. -/
theorem capitalize_isWord {word : List Char} (isWord : IsWord word) :
    ∃ first rest, capitalize word = first :: rest ∧
      (first.isUpper = true ∨ first.isDigit = true) ∧ rest.all Char.isAlphanum = true := by
  obtain ⟨nonempty, alphanumeric⟩ := isWord
  cases word with
  | nil => exact absurd rfl nonempty
  | cons c rest =>
      simp only [List.all_cons, Bool.and_eq_true] at alphanumeric
      exact ⟨c.toUpper, rest, rfl, isUpper_or_isDigit_toUpper alphanumeric.1, alphanumeric.2⟩

theorem alphanumeric_capitalized {wordList : List (List Char)}
    (areWords : ∀ word ∈ wordList, IsWord word) :
    (wordList.flatMap capitalize).all Char.isAlphanum = true := by
  rw [List.all_eq_true]
  intro c member
  obtain ⟨word, inside, position⟩ := List.mem_flatMap.mp member
  obtain ⟨first, rest, shape, kind, others⟩ := capitalize_isWord (areWords word inside)
  rw [shape] at position
  rcases List.mem_cons.mp position with rfl | later
  · exact isAlphanum_of_isUpper_or_isDigit kind
  · exact List.all_eq_true.mp others c later

/-- The letter before a leading digit makes a class name of capitalized words. -/
theorem spells_guardDigit {first : Char} {rest : List Char}
    (kind : first.isUpper = true ∨ first.isDigit = true)
    (others : rest.all Char.isAlphanum = true) :
    Grammar.className.spells (guardDigit 'X' (first :: rest)) = true := by
  have alphanumeric := isAlphanum_of_isUpper_or_isDigit kind
  by_cases digit : first.isDigit = true
  · rw [guardDigit, if_pos digit]
    simp [Grammar.spells, Grammar.className, alphanumeric, others]
  · rw [guardDigit, if_neg digit]
    simp [Grammar.spells, Grammar.className, kind.resolve_right digit, others]

/-- A text without a word has no class name, and any other has a well spelled one. -/
theorem pascalChars_eq_nil_or_spells (text : List Char) :
    pascalChars text = [] ∨ Grammar.className.spells (pascalChars text) = true := by
  have areWords : ∀ word ∈ words text, IsWord word := fun _ member => isWord_of_mem_words member
  unfold pascalChars
  cases found : words text with
  | nil => exact Or.inl rfl
  | cons word others =>
      rw [found] at areWords
      have isWord := areWords word List.mem_cons_self
      obtain ⟨first, rest, shape, kind, tail⟩ := capitalize_isWord isWord
      have later := alphanumeric_capitalized fun other member =>
        areWords other (List.mem_cons_of_mem _ member)
      right
      rw [List.flatMap_cons, shape, List.cons_append]
      exact spells_guardDigit kind (by rw [List.all_append, tail, later]; rfl)

end DartModels.Name
