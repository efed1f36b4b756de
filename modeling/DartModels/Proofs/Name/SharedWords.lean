import DartModels.Proofs.Name.JoinedWords

/-
Class names and file names are made of the same words, which are all the letters and digits of a
text.
-/

namespace DartModels.Name

open DartModels.Text

/-! Words as what separators leave over -/

def isSeparator (c : Char) : Bool := !c.isAlphanum

/-- The parts of a text between separators, the empty ones among them. -/
def separated (text : List Char) : List (List Char) := text.splitOnP isSeparator

theorem separated_cons_of_separator {c : Char} (separator : c.isAlphanum = false)
    (rest : List Char) : separated (c :: rest) = [] :: separated rest := by
  rw [separated, List.splitOnP_cons_eq_if_modifyHead, isSeparator, separator]
  rfl

theorem separated_cons_of_letter {c : Char} (letter : c.isAlphanum = true) (rest : List Char) :
    separated (c :: rest) = (separated rest).modifyHead (c :: ·) := by
  rw [separated, List.splitOnP_cons_eq_if_modifyHead, isSeparator, letter]
  rfl

def nonempty (parts : List (List Char)) : List (List Char) := parts.filter fun part => !part.isEmpty

theorem nonempty_cons (part : List Char) (parts : List (List Char)) :
    nonempty (part :: parts) = pushWord part (nonempty parts) := by
  cases part <;> simp [nonempty]

/-- Once the boundaries are marked, the first part is the word at the front, and the words among
the others are the rest. -/
theorem separated_splitBoundaries (text : List Char) :
    ∃ others, separated (splitBoundaries text) = (cutWords text).1 :: others ∧
      nonempty others = (cutWords text).2 := by
  induction text with
  | nil => exact ⟨[], rfl, rfl⟩
  | cons c rest ih =>
      obtain ⟨others, parts, kept⟩ := ih
      have whole : nonempty (separated (splitBoundaries rest)) = words rest := by
        rw [parts, nonempty_cons, kept, words_eq]
      rw [splitBoundaries]
      cases letter : c.isAlphanum with
      | false =>
          refine ⟨separated (splitBoundaries rest), ?_, ?_⟩
          · rw [endsWord_of_separator letter, if_neg Bool.false_ne_true,
              separated_cons_of_separator letter]
            simp [cutWords, letter]
          · simp [cutWords, letter, whole, words_eq]
      | true =>
          cases ends : endsWord c rest with
          | true =>
              refine ⟨separated (splitBoundaries rest), ?_, ?_⟩
              · rw [if_pos rfl, separated_cons_of_letter letter,
                  separated_cons_of_separator (by decide)]
                simp [cutWords, letter, ends]
              · simp [cutWords, letter, ends, whole, words_eq]
          | false =>
              refine ⟨others, ?_, ?_⟩
              · rw [if_neg Bool.false_ne_true, separated_cons_of_letter letter, parts]
                simp [cutWords, letter, ends]
              · simp [cutWords, letter, ends, kept]

/-- The words of a text are found between its separators when its boundaries are separated too. -/
theorem words_eq_nonempty (text : List Char) :
    words text = nonempty (separated (splitBoundaries text)) := by
  obtain ⟨others, parts, kept⟩ := separated_splitBoundaries text
  rw [parts, nonempty_cons, kept, words_eq]

/-! Nothing but letters and digits, and a letter before a leading digit -/

theorem isDigit_toLower (c : Char) : c.toLower.isDigit = c.isDigit := by
  by_cases upper : c.isUpper = true
  · have lower : c.toLower.isLower = true := by
      rw [Char.isLower_toLower_eq_isAlpha, Char.isAlpha, upper, Bool.true_or]
    rw [isDigit_of_isLower lower, isDigit_of_isUpper upper]
  · rw [Char.toLower_eq_of_not_isUpper upper]

theorem lowercase_guardDigit (letter : Char) (text : List Char) :
    lowercase (guardDigit letter text) = guardDigit letter.toLower (lowercase text) := by
  cases text with
  | nil => rfl
  | cons c rest =>
      rw [lowercase, lowercase, List.map_cons, guardDigit, guardDigit, isDigit_toLower]
      split <;> rfl

theorem lowercase_of_alphanumeric {text : List Char} (alphanumeric : text.all Char.isAlphanum = true) :
    lowercase text = letters text := by
  rw [letters, List.filter_eq_self.mpr (List.all_eq_true.mp alphanumeric), lowercase]

/-- In small letters a class name is the letters and digits of its text. -/
theorem lowercase_pascalChars (text : List Char) :
    lowercase (pascalChars text) = guardDigit 'x' (letters text) := by
  have alphanumeric : ((words text).flatMap capitalize).all Char.isAlphanum = true :=
    alphanumeric_capitalized fun _ => isWord_of_mem_words
  have same : letters ((words text).flatMap capitalize) = letters text := by
    rw [letters_flatMap_capitalize, flatten_words, letters_filter]
  rw [pascalChars, lowercase_guardDigit, lowercase_of_alphanumeric alphanumeric, same]
  rfl

def withoutUnderscores (text : List Char) : List Char := text.filter fun c => c != '_'

theorem withoutUnderscores_of_isWord {word : List Char} (isWord : IsWord word) :
    withoutUnderscores word = word := by
  apply List.filter_eq_self.mpr
  intro c member
  rw [bne_iff_ne]
  rintro rfl
  exact absurd (List.all_eq_true.mp isWord.alphanumeric '_' member) (by decide)

theorem withoutUnderscores_joinWith {parts : List (List Char)}
    (areWords : ∀ part ∈ parts, IsWord part) :
    withoutUnderscores (joinWith '_' parts) = parts.flatten := by
  induction parts with
  | nil => rfl
  | cons part parts ih =>
      obtain ⟨own, others⟩ := List.forall_mem_cons.mp areWords
      have first := withoutUnderscores_of_isWord own
      cases parts with
      | nil => simpa [joinWith] using first
      | cons next later =>
          rw [withoutUnderscores] at ih first ⊢
          rw [joinWith, List.filter_append, List.filter_cons_of_neg (by decide), first, ih others]
          rfl

theorem withoutUnderscores_cons {c : Char} (other : c ≠ '_') (rest : List Char) :
    withoutUnderscores (c :: rest) = c :: withoutUnderscores rest :=
  List.filter_cons_of_pos (bne_iff_ne.mpr other)

theorem withoutUnderscores_guardDigit {text : List Char} (head : ∀ c ∈ text.head?, c ≠ '_') :
    withoutUnderscores (guardDigit 'x' text) = guardDigit 'x' (withoutUnderscores text) := by
  cases text with
  | nil => rfl
  | cons c rest =>
      have first := withoutUnderscores_cons (head c rfl) rest
      rw [first, guardDigit, guardDigit]
      split
      · rw [withoutUnderscores_cons (by decide), first]
      · exact first

theorem flatten_map_lowercase_words (text : List Char) :
    ((words text).map lowercase).flatten = letters text := by
  have merged : ((words text).map lowercase).flatten = lowercase (words text).flatten := by
    simp [lowercase, List.map_flatten]
    rfl
  rw [merged, flatten_words, lowercase, letters]

/-- Without its underscores a file name is the letters and digits of its text. -/
theorem withoutUnderscores_snakeChars (text : List Char) :
    withoutUnderscores (snakeChars text) = guardDigit 'x' (letters text) := by
  have areWords : ∀ part ∈ (words text).map lowercase, IsWord part := fun _ =>
    isWord_of_mem_lowercase
  rw [snakeChars_eq, withoutUnderscores_guardDigit (isTrimmed_joinWith areWords).head,
    withoutUnderscores_joinWith areWords, flatten_map_lowercase_words]

theorem guardDigit_eq_nil_iff {letter : Char} {text : List Char} :
    guardDigit letter text = [] ↔ text = [] := by
  cases text with
  | nil => simp [guardDigit]
  | cons c rest =>
      rw [guardDigit]
      split <;> simp

theorem snakeChars_eq_nil_iff {text : List Char} : snakeChars text = [] ↔ letters text = [] := by
  constructor
  · intro empty
    have none := withoutUnderscores_snakeChars text
    rw [empty] at none
    exact guardDigit_eq_nil_iff.mp none.symm
  · intro none
    rw [snakeChars_eq, words_eq_nil_iff.mpr none]
    rfl

/-- The words of a text are what separators and boundaries leave over. A file name has them in
small letters with underscores between them, and a class name has them capitalized: both are the
letters and digits of the text, and a letter before a leading digit. A text without any has neither
name, and any other text has names that are well spelled. -/
theorem casings_share_words (text : String) :
    words text.toList = nonempty (separated (splitBoundaries text.toList)) ∧
      (snake text).toList =
        guardDigit 'x' (joinWith '_' ((words text.toList).map lowercase)) ∧
      lowercase (pascal text).toList = withoutUnderscores (snake text).toList ∧
      lowercase (pascal text).toList = guardDigit 'x' (letters text.toList) ∧
      (pascal text = "" ↔ text.toList.any Char.isAlphanum = false) ∧
      (snake text = "" ↔ text.toList.any Char.isAlphanum = false) ∧
      (Grammar.className.spells (pascal text).toList = true ↔
        text.toList.any Char.isAlphanum = true) ∧
      (IsStem (snake text).toList ↔ text.toList.any Char.isAlphanum = true) := by
  have pascalText : (pascal text).toList = pascalChars text.toList := String.toList_ofList
  have snakeText : (snake text).toList = snakeChars text.toList := String.toList_ofList
  have filled : text.toList.any Char.isAlphanum = true ↔ letters text.toList ≠ [] := by
    rw [ne_eq, letters_eq_nil_iff, Bool.not_eq_false]
  refine ⟨words_eq_nonempty text.toList, ?_, ?_, ?_, ?_, ?_, ?_, ?_⟩
  · rw [snakeText, snakeChars_eq]
  · rw [pascalText, snakeText, lowercase_pascalChars, withoutUnderscores_snakeChars]
  · rw [pascalText, lowercase_pascalChars]
  · rw [← String.toList_eq_nil_iff, pascalText, pascalChars_eq_nil_iff, letters_eq_nil_iff]
  · rw [← String.toList_eq_nil_iff, snakeText, snakeChars_eq_nil_iff, letters_eq_nil_iff]
  · rw [pascalText, filled]
    constructor
    · intro spelled none
      rw [pascalChars_eq_nil_iff.mpr none] at spelled
      cases spelled
    · intro some
      refine (pascalChars_eq_nil_or_spells text.toList).resolve_left fun empty => ?_
      exact some (pascalChars_eq_nil_iff.mp empty)
  · rw [snakeText, filled]
    constructor
    · intro isStem none
      exact isStem.ne_nil (snakeChars_eq_nil_iff.mpr none)
    · intro some
      refine (snakeChars_eq_nil_or_isStem text.toList).resolve_left fun ⟨wordless, _⟩ => ?_
      exact some (words_eq_nil_iff.mp wordless)

example : snake "3D-userURL 7_" = "x3_d_user_url_7" := by decide

end DartModels.Name
