import DartModels.Proofs.Name.SharedWords

/-
The casings of a name absorb each other: a name in one casing is made into another as its text is.
-/

namespace DartModels.Name

open DartModels.Text

/-! Class names and field names -/

theorem toUpper_toLower_of_isUpper {c : Char} (upper : c.isUpper = true) :
    c.toLower.toUpper = c := by
  rw [Char.toUpper_toLower_eq_toUpper,
    Char.toUpper_eq_of_not_isLower (Char.not_isLower_of_isUpper upper)]

/-- Only the first letter of a name was made small, and the class name makes it a capital again. -/
theorem pascalChars_uncapitalize {name : List Char}
    (spelled : Grammar.className.spells name = true) : pascalChars (uncapitalize name) = name := by
  cases name with
  | nil => cases spelled
  | cons c rest =>
      rw [Grammar.spells, Bool.and_eq_true] at spelled
      have upper : c.isUpper = true := spelled.1
      have alphanumeric : (uncapitalize (c :: rest)).all Char.isAlphanum = true := by
        rw [uncapitalize, List.all_cons, isAlphanum_toLower_eq,
          isAlphanum_of_isUpper_or_isDigit (.inl upper), Bool.true_and]
        exact spelled.2
      rw [pascalChars_of_alphanumeric alphanumeric, uncapitalize, capitalize,
        toUpper_toLower_of_isUpper upper, guardDigit, isDigit_of_isUpper upper,
        if_neg Bool.false_ne_true]

theorem pascalChars_camelChars (text : List Char) :
    pascalChars (camelChars text) = pascalChars text := by
  rw [camelChars]
  rcases pascalChars_eq_nil_or_spells text with empty | spelled
  · rw [empty]
    rfl
  · exact pascalChars_uncapitalize spelled

theorem camelChars_camelChars (text : List Char) :
    camelChars (camelChars text) = camelChars text := by
  rw [camelChars, pascalChars_camelChars, camelChars]

theorem camelChars_pascalChars (text : List Char) :
    camelChars (pascalChars text) = camelChars text := by
  rw [camelChars, pascalChars_pascalChars, camelChars]

/-! File names -/

/-- Small letters and digits, without capitals and separators. -/
def IsSmall (word : List Char) : Prop :=
  word ≠ [] ∧ word.all (fun c => c.isLower || c.isDigit) = true

theorem isUpper_of_small {c : Char} (small : (c.isLower || c.isDigit) = true) :
    c.isUpper = false := by
  rw [Bool.eq_false_iff]
  intro upper
  rw [Bool.or_eq_true] at small
  rcases small with lower | digit
  · exact Char.not_isUpper_of_isLower lower upper
  · rw [isDigit_of_isUpper upper] at digit
    cases digit

theorem isAlphanum_of_small {c : Char} (small : (c.isLower || c.isDigit) = true) :
    c.isAlphanum = true := by
  rw [Bool.or_eq_true] at small
  rcases small with lower | digit
  · simp [Char.isAlphanum, Char.isAlpha, lower]
  · simp [Char.isAlphanum, digit]

/-- Boundaries need capitals. -/
theorem splitBoundaries_of_no_upper {text : List Char} (none : ∀ c ∈ text, c.isUpper = false) :
    splitBoundaries text = text := by
  induction text with
  | nil => rfl
  | cons c rest ih =>
      obtain ⟨-, later⟩ := List.forall_mem_cons.mp none
      have joined : endsWord c rest = false := by
        cases rest with
        | nil => rfl
        | cons next others => rw [endsWord, isBoundary, later next List.mem_cons_self, Bool.and_false]
      rw [splitBoundaries, joined, if_neg Bool.false_ne_true, ih later]

theorem nonempty_separated_joinWith {parts : List (List Char)} (small : ∀ part ∈ parts, IsSmall part) :
    nonempty (separated (joinWith '_' parts)) = parts := by
  induction parts with
  | nil => rfl
  | cons part parts ih =>
      obtain ⟨⟨filled, own⟩, others⟩ := List.forall_mem_cons.mp small
      have inside : ∀ c ∈ part, isSeparator c = false := by
        intro c member
        rw [isSeparator, isAlphanum_of_small (List.all_eq_true.mp own c member), Bool.not_true]
      have pushed (words : List (List Char)) : pushWord part words = part :: words := by
        cases part with
        | nil => exact absurd rfl filled
        | cons c rest => rfl
      cases parts with
      | nil =>
          rw [joinWith, separated, List.splitOnP_eq_singleton inside, nonempty_cons, pushed]
          rfl
      | cons next later =>
          rw [joinWith, separated, List.splitOnP_append_cons_of_forall_mem inside '_' (by decide),
            nonempty_cons, pushed, ← separated, ih others]

/-- Small words with underscores between them are the words again. -/
theorem words_joinWith {parts : List (List Char)} (small : ∀ part ∈ parts, IsSmall part) :
    words (joinWith '_' parts) = parts := by
  have none : ∀ c ∈ joinWith '_' parts, c.isUpper = false := by
    intro c member
    rcases mem_joinWith member with rfl | ⟨part, inside, own⟩
    · decide
    · exact isUpper_of_small (List.all_eq_true.mp (small part inside).2 c own)
  rw [words_eq_nonempty, splitBoundaries_of_no_upper none, nonempty_separated_joinWith small]

theorem lowercase_of_isSmall {word : List Char} (small : IsSmall word) : lowercase word = word := by
  rw [lowercase]
  refine (List.map_congr_left fun c member => ?_).trans (List.map_id word)
  apply Char.toLower_eq_of_not_isUpper
  rw [isUpper_of_small (List.all_eq_true.mp small.2 c member)]
  exact Bool.false_ne_true

/-- A stem is its own file name. -/
theorem snakeChars_of_isStem {name : List Char} (isStem : IsStem name) : snakeChars name = name := by
  obtain ⟨c, first, others, lower, rfl, small⟩ := isStem
  have same : ((c :: first) :: others).map lowercase = (c :: first) :: others :=
    (List.map_congr_left fun word member => lowercase_of_isSmall (small word member)).trans
      (List.map_id _)
  rw [snakeChars_eq, words_joinWith small, same, joinWith_cons, List.cons_append, guardDigit,
    isDigit_of_isLower lower, if_neg Bool.false_ne_true]

theorem snakeChars_snakeChars (text : List Char) : snakeChars (snakeChars text) = snakeChars text := by
  rcases snakeChars_eq_nil_or_isStem text with ⟨-, empty⟩ | isStem
  · rw [empty]
    rfl
  · exact snakeChars_of_isStem isStem

/-- Each casing leaves its own names alone, and class names and field names are made from each
other as they are made from the text. -/
theorem casings_absorb (text : String) :
    pascal (pascal text) = pascal text ∧ camel (camel text) = camel text ∧
      pascal (camel text) = pascal text ∧ camel (pascal text) = camel text ∧
      snake (snake text) = snake text := by
  simp only [pascal, camel, snake, String.toList_ofList, pascalChars_pascalChars,
    camelChars_camelChars, pascalChars_camelChars, camelChars_pascalChars, snakeChars_snakeChars,
    and_self]

end DartModels.Name
