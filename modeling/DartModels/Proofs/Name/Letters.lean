import DartModels.Proofs.Name.FileStem

/-
The letters and digits of a text, which every casing keeps in their order.
-/

namespace DartModels.Name

open DartModels.Text

theorem isAlphanum_toLower_eq (c : Char) : c.toLower.isAlphanum = c.isAlphanum := by
  by_cases upper : c.isUpper = true
  · have own : c.isAlphanum = true := isAlphanum_of_isUpper_or_isDigit (.inl upper)
    rw [own, isAlphanum_toLower own]
  · rw [Char.toLower_eq_of_not_isUpper upper]

theorem isAlphanum_toUpper_eq (c : Char) : c.toUpper.isAlphanum = c.isAlphanum := by
  rw [← isAlphanum_toLower_eq, Char.toLower_toUpper_eq_toLower, isAlphanum_toLower_eq]

/-- The ASCII letters and digits of a text, in small letters. -/
def letters (text : List Char) : List Char := (text.filter Char.isAlphanum).map Char.toLower

@[simp] theorem letters_nil : letters [] = [] := rfl

@[simp] theorem letters_append (first second : List Char) :
    letters (first ++ second) = letters first ++ letters second := by
  simp [letters]

@[simp] theorem letters_cons (c : Char) (rest : List Char) :
    letters (c :: rest) = (if c.isAlphanum then [c.toLower] else []) ++ letters rest := by
  by_cases own : c.isAlphanum = true <;> simp [letters, own]

theorem letters_underscore (rest : List Char) : letters ('_' :: rest) = letters rest := rfl

theorem letters_filter (text : List Char) :
    letters (text.filter Char.isAlphanum) = letters text := by
  simp [letters]

theorem letters_reverse (text : List Char) : letters text.reverse = (letters text).reverse := by
  simp [letters]

theorem letters_map_toLower (text : List Char) :
    letters (text.map Char.toLower) = letters text := by
  induction text with
  | nil => rfl
  | cons c rest ih => simp [isAlphanum_toLower_eq, Char.toLower_toLower_eq_toLower, ih]

/-! Class names -/

theorem flatten_pushWord (word : List Char) (words : List (List Char)) :
    (pushWord word words).flatten = word ++ words.flatten := by
  unfold pushWord
  split
  next empty => simp [List.isEmpty_iff.mp empty]
  next => rfl

/-- The words of a text are all its letters and digits. -/
theorem flatten_words (text : List Char) : (words text).flatten = text.filter Char.isAlphanum := by
  rw [words, flatten_pushWord]
  induction text with
  | nil => rfl
  | cons c rest ih =>
      simp only [cutWords]
      by_cases own : c.isAlphanum = true
      · cases ends : endsWord c rest <;> simp [own, flatten_pushWord, ih]
      · simp [own, flatten_pushWord, ih]

theorem letters_capitalize (word : List Char) : letters (capitalize word) = letters word := by
  cases word with
  | nil => rfl
  | cons c rest => simp [capitalize, isAlphanum_toUpper_eq, Char.toLower_toUpper_eq_toLower]

theorem letters_flatMap_capitalize (words : List (List Char)) :
    letters (words.flatMap capitalize) = letters words.flatten := by
  induction words with
  | nil => rfl
  | cons word rest ih => simp [letters_capitalize, ih]

/-- Only one letter may come before those of the text itself. -/
theorem letters_suffix_guardDigit (letter : Char) (text : List Char) :
    letters text <:+ letters (guardDigit letter text) := by
  cases text with
  | nil => exact List.suffix_refl _
  | cons c rest =>
      rw [guardDigit]
      split
      · rw [letters_cons letter]
        exact List.suffix_append _ _
      · exact List.suffix_refl _

theorem letters_suffix_pascalChars (text : List Char) :
    letters text <:+ letters (pascalChars text) := by
  have same : letters ((words text).flatMap capitalize) = letters text := by
    rw [letters_flatMap_capitalize, flatten_words, letters_filter]
  rw [← same]
  exact letters_suffix_guardDigit 'X' _

theorem letters_eq_nil_iff {text : List Char} :
    letters text = [] ↔ text.any Char.isAlphanum = false := by
  rw [letters, List.map_eq_nil_iff, List.filter_eq_nil_iff, List.any_eq_false]

/-- A text has a word exactly when it has a letter or a digit. -/
theorem words_eq_nil_iff {text : List Char} : words text = [] ↔ letters text = [] := by
  constructor
  · intro wordless
    have none := flatten_words text
    rw [wordless, List.flatten_nil] at none
    rw [letters, ← none, List.map_nil]
  · intro none
    have empty : (words text).flatten = [] := by
      rw [flatten_words]
      exact List.map_eq_nil_iff.mp none
    cases found : words text with
    | nil => rfl
    | cons word others =>
        rw [found, List.flatten_cons, List.append_eq_nil_iff] at empty
        have isWord : IsWord word := isWord_of_mem_words (found ▸ List.mem_cons_self)
        exact absurd empty.1 isWord.nonempty

/-- A text without letters and digits has no class name, and no other text. -/
theorem pascalChars_eq_nil_iff {text : List Char} : pascalChars text = [] ↔ letters text = [] := by
  constructor
  · intro empty
    have kept := letters_suffix_pascalChars text
    rw [empty] at kept
    exact List.suffix_nil.mp kept
  · intro none
    rw [pascalChars, words_eq_nil_iff.mpr none]
    rfl

/-! File names -/

theorem letters_splitBoundaries (text : List Char) :
    letters (splitBoundaries text) = letters text := by
  induction text with
  | nil => rfl
  | cons c rest ih =>
      rw [splitBoundaries]
      split
      next => rw [letters_cons, letters_underscore, ih, letters_cons]
      next => rw [letters_cons, ih, letters_cons]

theorem letters_joinSeparators (text : List Char) :
    letters (joinSeparators text) = letters text := by
  induction text with
  | nil => rfl
  | cons c rest ih =>
      rw [joinSeparators]
      split
      next => rw [letters_cons, ih, letters_cons]
      next other =>
        rw [letters_cons, if_neg other, List.nil_append]
        split
        next => exact ih
        next => rw [letters_underscore, ih]

theorem letters_dropUnderscores (text : List Char) :
    letters (text.dropWhile (· == '_')) = letters text := by
  induction text with
  | nil => rfl
  | cons c rest ih =>
      rw [List.dropWhile_cons]
      split
      next underscore =>
        rw [beq_iff_eq.mp underscore, letters_underscore, ih]
      next => rfl

theorem letters_trimUnderscores (text : List Char) :
    letters (trimUnderscores text) = letters text := by
  rw [trimUnderscores, letters_reverse, letters_dropUnderscores, letters_reverse,
    letters_dropUnderscores, List.reverse_reverse]

theorem letters_suffix_snakeChars (text : List Char) :
    letters text <:+ letters (snakeChars text) := by
  have same : letters (trimUnderscores ((joinSeparators (splitBoundaries text)).map Char.toLower)) =
      letters text := by
    rw [letters_trimUnderscores, letters_map_toLower, letters_joinSeparators,
      letters_splitBoundaries]
  rw [← same]
  exact letters_suffix_guardDigit 'x' _

/-! The entity suffix -/

theorem entity_suffix_withEntitySuffix {name : String} (nonempty : name.isEmpty = false) :
    "entity".toList <:+ letters (withEntitySuffix name).toList := by
  unfold withEntitySuffix
  split
  next given =>
    have ends : "_entity".toList <:+ name.toList.map Char.toLower := by
      simpa [nonempty, endsWithEntity] using given
    obtain ⟨front, whole⟩ := ends
    rw [← letters_map_toLower, ← whole, letters_append]
    exact List.suffix_append _ _
  next =>
    rw [String.toList_append, letters_append]
    exact List.suffix_append _ _

theorem className_eq_ok {entitySuffix : Bool} {given name : String}
    (named : className entitySuffix given = .ok name) :
    (trimmed given).isEmpty = false ∧
      name = pascal (if entitySuffix then withEntitySuffix (trimmed given) else trimmed given) := by
  unfold className at named
  dsimp only at named
  split at named
  · cases named
  next filled =>
    generalize pascal _ = result at named ⊢
    split at named
    · cases named
    next => exact ⟨Bool.eq_false_iff.mpr filled, (Except.ok.inj named).symm⟩

/-- Under the entity suffix, the file of a class has a stem that ends with the suffix. -/
theorem entity_suffix_fileStem {given name : String} (named : className true given = .ok name) :
    "entity".toList <:+ letters (fileStem name).toList := by
  obtain ⟨filled, rfl⟩ := className_eq_ok named
  rw [if_pos rfl]
  have ends := entity_suffix_withEntitySuffix filled
  generalize withEntitySuffix (trimmed given) = full at ends
  have kept : letters full.toList <:+ letters (snake (pascal full)).toList := by
    rw [snake, pascal, String.toList_ofList, String.toList_ofList]
    exact (letters_suffix_pascalChars full.toList).trans (letters_suffix_snakeChars _)
  replace ends := ends.trans kept
  rw [fileStem]
  split
  next empty =>
    rw [String.isEmpty_iff.mp empty] at ends
    exact absurd ends (by decide)
  next => exact ends

end DartModels.Name
