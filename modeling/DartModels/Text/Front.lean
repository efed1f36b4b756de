/-
Words at the front of texts.
-/

namespace DartModels.Text

/-- What is left of a text after a word at its front. -/
def afterWord? : (word text : List Char) → Option (List Char)
  | [], text => some text
  | _ :: _, [] => none
  | w :: word, c :: text => if w = c then afterWord? word text else none

theorem afterWord?_append (word rest : List Char) :
    afterWord? word (word ++ rest) = some rest := by
  induction word with
  | nil => cases rest <;> rfl
  | cons w word inductionHypothesis => simp [afterWord?, inductionHypothesis]

/-- A word is only found where the text begins with it. -/
theorem eq_append_of_afterWord? {word text rest : List Char}
    (found : afterWord? word text = some rest) : text = word ++ rest := by
  induction word generalizing text with
  | nil =>
      cases found
      rfl
  | cons w word inductionHypothesis =>
      cases text with
      | nil => cases found
      | cons c text =>
          rw [afterWord?] at found
          split at found
          next same => rw [same, List.cons_append, inductionHypothesis found]
          next => cases found

/-- A text without one of the characters of a word does not begin with it. -/
theorem afterWord?_eq_none {word text : List Char} {c : Char} (inWord : c ∈ word)
    (absent : c ∉ text) : afterWord? word text = none := by
  cases found : afterWord? word text with
  | none => rfl
  | some rest =>
      rw [eq_append_of_afterWord? found] at absent
      exact absurd (List.mem_append_left rest inWord) absent

end DartModels.Text
