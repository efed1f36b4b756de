import DartModels.Proofs.Name.Letters
import DartModels.Text.Parts

/-
Names that are joined from the words of a text: a class name has its own words in it, and a file
name has them in small letters with underscores between them.
-/

namespace DartModels.Name

open DartModels.Text

/-! The words of a class name -/

theorem capitalize_of_isUpper {c : Char} (upper : c.isUpper = true) (rest : List Char) :
    capitalize (c :: rest) = c :: rest := by
  rw [capitalize, Char.toUpper_eq_of_not_isLower (Char.not_isLower_of_isUpper upper)]

theorem isDigit_of_isUpper {c : Char} (upper : c.isUpper = true) : c.isDigit = false :=
  isDigit_of_isAlpha (Bool.or_eq_true_iff.mpr (.inl upper))

theorem words_eq (text : List Char) :
    words text = pushWord (cutWords text).1 (cutWords text).2 := rfl

@[simp] theorem pushWord_nil (words : List (List Char)) : pushWord [] words = words := rfl

@[simp] theorem pushWord_cons (c : Char) (word : List Char) (words : List (List Char)) :
    pushWord (c :: word) words = (c :: word) :: words := rfl

/-- The first word of letters and digits begins where they begin. -/
theorem head?_cutWords {text : List Char} (alphanumeric : text.all Char.isAlphanum = true) :
    (cutWords text).1.head? = text.head? := by
  cases text with
  | nil => rfl
  | cons c rest =>
      rw [List.all_cons, Bool.and_eq_true] at alphanumeric
      simp only [cutWords, alphanumeric.1, Bool.not_true, Bool.false_eq_true, if_false]
      split <;> rfl

theorem exists_cons_of_head? {text : List Char} {c : Char} (head : text.head? = some c) :
    ∃ rest, text = c :: rest := by
  cases text with
  | nil => cases head
  | cons first rest =>
      cases head
      exact ⟨rest, rfl⟩

/-- Letters and digits are cut before capitals alone, so their later words are capitalized. -/
theorem cutWords_flatMap_capitalize {text : List Char}
    (alphanumeric : text.all Char.isAlphanum = true) :
    (cutWords text).1 ++ (cutWords text).2.flatMap capitalize = text := by
  induction text with
  | nil => rfl
  | cons c rest ih =>
      rw [List.all_cons, Bool.and_eq_true] at alphanumeric
      have whole := ih alphanumeric.2
      have head := head?_cutWords alphanumeric.2
      simp only [cutWords, alphanumeric.1, Bool.not_true, Bool.false_eq_true, if_false]
      generalize cutWords rest = cut at whole head
      obtain ⟨word, words⟩ := cut
      dsimp only at whole head ⊢
      split
      next ends =>
        cases rest with
        | nil => cases ends
        | cons next later =>
            rw [endsWord, isBoundary, Bool.and_eq_true] at ends
            obtain ⟨more, rfl⟩ := exists_cons_of_head? head
            rw [pushWord_cons, List.flatMap_cons, capitalize_of_isUpper ends.2, whole,
              List.singleton_append]
      next => rw [List.cons_append, whole]

/-- A text of letters and digits is one name, and only the first of them may change in it. -/
theorem pascalChars_of_alphanumeric {text : List Char}
    (alphanumeric : text.all Char.isAlphanum = true) :
    pascalChars text = guardDigit 'X' (capitalize text) := by
  have whole := cutWords_flatMap_capitalize alphanumeric
  have head := head?_cutWords alphanumeric
  cases text with
  | nil => rfl
  | cons c rest =>
      obtain ⟨more, first⟩ := exists_cons_of_head? head
      rw [first, List.cons_append, List.cons.injEq] at whole
      rw [pascalChars, words_eq, first, pushWord_cons, List.flatMap_cons, capitalize,
        List.cons_append, whole.2]
      rfl

/-- What is spelled like a class name is the class name for itself. -/
theorem pascalChars_of_spells {text : List Char} (spelled : Grammar.className.spells text = true) :
    pascalChars text = text := by
  cases text with
  | nil => cases spelled
  | cons c rest =>
      rw [Grammar.spells, Bool.and_eq_true] at spelled
      have upper : c.isUpper = true := spelled.1
      have alphanumeric : (c :: rest).all Char.isAlphanum = true := by
        rw [List.all_cons, isAlphanum_of_isUpper_or_isDigit (.inl upper), Bool.true_and]
        exact spelled.2
      rw [pascalChars_of_alphanumeric alphanumeric, capitalize_of_isUpper upper, guardDigit,
        isDigit_of_isUpper upper, if_neg Bool.false_ne_true]

theorem pascalChars_pascalChars (text : List Char) :
    pascalChars (pascalChars text) = pascalChars text := by
  rcases pascalChars_eq_nil_or_spells text with empty | spelled
  · rw [empty]
    rfl
  · exact pascalChars_of_spells spelled

/-! Words with underscores between them -/

theorem beginsWithSeparator_splitBoundaries (text : List Char) :
    beginsWithSeparator (splitBoundaries text) = beginsWithSeparator text := by
  cases text with
  | nil => rfl
  | cons c rest =>
      rw [splitBoundaries]
      split <;> rfl

/-- A text that begins with a separator has no word at its front. -/
theorem cutWords_of_beginsWithSeparator {text : List Char}
    (separated : beginsWithSeparator text = true) : (cutWords text).1 = [] := by
  cases text with
  | nil => cases separated
  | cons c rest =>
      rw [beginsWithSeparator, Bool.not_eq_true'] at separated
      simp [cutWords, separated]

/-- A letter or a digit at the front of a text begins a word. -/
theorem exists_cutWords_cons {c : Char} (letter : c.isAlphanum = true) (rest : List Char) :
    ∃ more, (cutWords (c :: rest)).1 = c :: more := by
  simp only [cutWords, letter, Bool.not_true, Bool.false_eq_true, if_false]
  split <;> exact ⟨_, rfl⟩

theorem endsWord_of_separator {c : Char} (separator : c.isAlphanum = false) (rest : List Char) :
    endsWord c rest = false := by
  have inside : (c.isLower || c.isDigit) = false := by
    rw [Char.isAlphanum, Char.isAlpha, Bool.or_eq_false_iff, Bool.or_eq_false_iff] at separator
    rw [separator.1.2, separator.2]
    rfl
  cases rest with
  | nil => rfl
  | cons next later => rw [endsWord, isBoundary, inside, Bool.false_and]

/-- Nothing stands after the last word, or one underscore. -/
def IsGap (trail : List Char) : Prop := trail = [] ∨ trail = ['_']

/-- What a text is spaced to: the word at its front, an underscore and a word for each of the
others, and a gap. -/
def IsSpaced (text spaced : List Char) : Prop :=
  ∃ trail, IsGap trail ∧
    spaced = (cutWords text).1 ++ (cutWords text).2.flatMap ('_' :: ·) ++ trail

/-- Behind a separator there are words alone. -/
theorem joinSeparators_separator {c : Char} {rest : List Char}
    (separator : c.isAlphanum = false)
    (spaced : IsSpaced rest (joinSeparators (splitBoundaries rest))) :
    ∃ trail, IsGap trail ∧
      joinSeparators (c :: splitBoundaries rest) = (words rest).flatMap ('_' :: ·) ++ trail := by
  obtain ⟨trail, gap, spaced⟩ := spaced
  rw [joinSeparators, separator, if_neg Bool.false_ne_true, beginsWithSeparator_splitBoundaries,
    words_eq]
  cases rest with
  | nil => exact ⟨['_'], .inr rfl, rfl⟩
  | cons next later =>
      refine ⟨trail, gap, ?_⟩
      rw [spaced]
      cases letter : next.isAlphanum with
      | false =>
          have separated : beginsWithSeparator (next :: later) = true := by
            rw [beginsWithSeparator, letter, Bool.not_false]
          rw [separated, if_pos rfl, cutWords_of_beginsWithSeparator separated, pushWord_nil,
            List.nil_append]
      | true =>
          have joined : beginsWithSeparator (next :: later) = false := by
            rw [beginsWithSeparator, letter, Bool.not_true]
          obtain ⟨more, first⟩ := exists_cutWords_cons letter later
          rw [joined, if_neg Bool.false_ne_true, first, pushWord_cons, List.flatMap_cons]
          rfl

theorem isSpaced_joinSeparators (text : List Char) :
    IsSpaced text (joinSeparators (splitBoundaries text)) := by
  induction text with
  | nil => exact ⟨[], .inl rfl, rfl⟩
  | cons c rest ih =>
      cases letter : c.isAlphanum with
      | false =>
          have cut : cutWords (c :: rest) = ([], words rest) := by
            simp [cutWords, letter, words_eq]
          obtain ⟨trail, gap, spaced⟩ := joinSeparators_separator letter ih
          refine ⟨trail, gap, ?_⟩
          rw [splitBoundaries, endsWord_of_separator letter, if_neg Bool.false_ne_true, spaced, cut,
            List.nil_append]
      | true =>
          cases ends : endsWord c rest with
          | false =>
              have cut : cutWords (c :: rest) = (c :: (cutWords rest).1, (cutWords rest).2) := by
                simp [cutWords, letter, ends]
              obtain ⟨trail, gap, spaced⟩ := ih
              refine ⟨trail, gap, ?_⟩
              rw [splitBoundaries, ends, if_neg Bool.false_ne_true, joinSeparators, if_pos letter,
                spaced, cut]
              rfl
          | true =>
              -- The boundary is spaced like a separator.
              have cut : cutWords (c :: rest) = ([c], words rest) := by
                simp [cutWords, letter, ends, words_eq]
              have underscore : '_'.isAlphanum = false := by decide
              obtain ⟨trail, gap, spaced⟩ := joinSeparators_separator underscore ih
              refine ⟨trail, gap, ?_⟩
              rw [splitBoundaries, ends, if_pos rfl, joinSeparators, if_pos letter, spaced, cut]
              rfl

/-! Small letters, and underscores trimmed away -/

/-- No underscore stands at either end. -/
structure IsTrimmed (text : List Char) : Prop where
  head : ∀ c ∈ text.head?, c ≠ '_'
  last : ∀ c ∈ text.getLast?, c ≠ '_'

theorem dropWhile_underscores {lead text : List Char} (gap : IsGap lead)
    (head : ∀ c ∈ text.head?, c ≠ '_') : (lead ++ text).dropWhile (· == '_') = text := by
  have own : text.dropWhile (· == '_') = text := by
    cases text with
    | nil => rfl
    | cons c rest => rw [List.dropWhile_cons_of_neg (by simpa using head c rfl)]
  rcases gap with rfl | rfl
  · exact own
  · exact own

theorem IsGap.reverse {trail : List Char} (gap : IsGap trail) : IsGap trail.reverse := by
  rcases gap with rfl | rfl
  · exact .inl rfl
  · exact .inr rfl

theorem IsTrimmed.reverse {text : List Char} (trimmed : IsTrimmed text) :
    IsTrimmed text.reverse where
  head := by
    rw [List.head?_reverse]
    exact trimmed.last
  last := by
    rw [List.getLast?_reverse]
    exact trimmed.head

theorem trimUnderscores_of_isTrimmed {lead text trail : List Char} (before : IsGap lead)
    (behind : IsGap trail) (filled : text = [] → trail = []) (trimmed : IsTrimmed text) :
    trimUnderscores (lead ++ text ++ trail) = text := by
  have head : ∀ c ∈ (text ++ trail).head?, c ≠ '_' := by
    cases text with
    | nil => simp [filled rfl]
    | cons c rest => exact trimmed.head
  rw [trimUnderscores, List.append_assoc, dropWhile_underscores before head, List.reverse_append,
    dropWhile_underscores behind.reverse trimmed.reverse.head, List.reverse_reverse]

/-- A word has letters and digits alone, so no underscore begins or ends it. -/
theorem IsWord.isTrimmed {word : List Char} (isWord : IsWord word) : IsTrimmed word := by
  have free : ∀ c ∈ word, c ≠ '_' := by
    rintro c member rfl
    exact absurd (List.all_eq_true.mp isWord.alphanumeric '_' member) (by decide)
  exact ⟨fun c first => free c (List.mem_of_mem_head? first),
    fun c last => free c (List.mem_of_mem_getLast? last)⟩

theorem IsTrimmed.append {front text : List Char} (own : IsTrimmed front) (others : IsTrimmed text)
    (filled : front ≠ []) (filledToo : text ≠ []) (between : List Char) :
    IsTrimmed (front ++ between ++ text) where
  head := by
    cases front with
    | nil => contradiction
    | cons c rest => exact own.head
  last := by
    rw [List.getLast?_append_of_ne_nil _ filledToo]
    exact others.last

theorem joinWith_ne_nil {part : List Char} (isWord : IsWord part) (parts : List (List Char)) :
    joinWith '_' (part :: parts) ≠ [] := by
  rw [joinWith_cons]
  exact List.append_ne_nil_of_left_ne_nil isWord.nonempty _

theorem isTrimmed_joinWith {parts : List (List Char)} (areWords : ∀ part ∈ parts, IsWord part) :
    IsTrimmed (joinWith '_' parts) := by
  induction parts with
  | nil => exact ⟨nofun, nofun⟩
  | cons part parts ih =>
      obtain ⟨own, others⟩ := List.forall_mem_cons.mp areWords
      cases parts with
      | nil => exact own.isTrimmed
      | cons next later =>
          have joined := joinWith_ne_nil (others next List.mem_cons_self) later
          have whole := own.isTrimmed.append (ih others) own.nonempty joined ['_']
          rwa [List.append_assoc] at whole

/-- The text is spaced to its words with gaps around them. -/
theorem IsSpaced.joined {text spaced : List Char} (isSpaced : IsSpaced text spaced) :
    ∃ lead trail, IsGap lead ∧ IsGap trail ∧ (words text = [] → trail = []) ∧
      spaced = lead ++ joinWith '_' (words text) ++ trail := by
  obtain ⟨trail, gap, rfl⟩ := isSpaced
  rw [words_eq]
  cases (cutWords text).1 with
  | cons c word =>
      have filled : pushWord (c :: word) (cutWords text).2 ≠ [] := List.cons_ne_nil _ _
      refine ⟨[], trail, .inl rfl, gap, fun empty => absurd empty filled, ?_⟩
      rw [pushWord_cons, joinWith_cons, List.nil_append]
  | nil =>
      cases (cutWords text).2 with
      | nil => exact ⟨trail, [], gap, .inl rfl, fun _ => rfl, by simp [joinWith]⟩
      | cons word later =>
          have filled : pushWord [] (word :: later) ≠ [] := List.cons_ne_nil _ _
          refine ⟨['_'], trail, .inr rfl, gap, fun empty => absurd empty filled, ?_⟩
          rw [pushWord_nil, joinWith_cons]
          rfl

def lowercase (word : List Char) : List Char := word.map Char.toLower

theorem IsWord.lowercase {word : List Char} (isWord : IsWord word) : IsWord (lowercase word) where
  nonempty empty := isWord.nonempty (List.map_eq_nil_iff.mp empty)
  alphanumeric := by
    rw [Name.lowercase, List.all_map, List.all_eq_true]
    intro c member
    exact isAlphanum_toLower (List.all_eq_true.mp isWord.alphanumeric c member)

theorem lowercase_joinWith (parts : List (List Char)) :
    lowercase (joinWith '_' parts) = joinWith '_' (parts.map lowercase) := by
  cases parts with
  | nil => rfl
  | cons part parts =>
      rw [List.map_cons, joinWith_cons, joinWith_cons, lowercase, List.map_append, List.map_flatMap,
        List.flatMap_map]
      rfl

theorem IsGap.lowercase {gap : List Char} (isGap : IsGap gap) : IsGap (lowercase gap) := by
  rcases isGap with rfl | rfl
  · exact .inl rfl
  · exact .inr rfl

theorem isWord_of_mem_lowercase {text part : List Char}
    (member : part ∈ (words text).map lowercase) : IsWord part := by
  obtain ⟨word, inside, rfl⟩ := List.mem_map.mp member
  exact (isWord_of_mem_words inside).lowercase

/-- A file name has the words of the text in small letters, with underscores between them. -/
theorem snakeChars_eq (text : List Char) :
    snakeChars text = guardDigit 'x' (joinWith '_' ((words text).map lowercase)) := by
  obtain ⟨lead, trail, before, behind, filled, spaced⟩ := (isSpaced_joinSeparators text).joined
  have areWords : ∀ part ∈ (words text).map lowercase, IsWord part := fun _ =>
    isWord_of_mem_lowercase
  have filled : joinWith '_' ((words text).map lowercase) = [] → lowercase trail = [] := by
    intro empty
    cases some : words text with
    | nil =>
        rw [filled some]
        rfl
    | cons word others =>
        rw [some, List.map_cons] at empty areWords
        exact absurd empty (joinWith_ne_nil (areWords _ List.mem_cons_self) _)
  have lowered : (joinSeparators (splitBoundaries text)).map Char.toLower =
      lowercase lead ++ joinWith '_' ((words text).map lowercase) ++ lowercase trail := by
    rw [spaced, List.map_append, List.map_append, ← lowercase_joinWith]
    rfl
  rw [snakeChars, lowered, trimUnderscores_of_isTrimmed before.lowercase behind.lowercase filled
    (isTrimmed_joinWith areWords)]

/-! File names of classes -/

/-- Words of small letters and digits with underscores between them; a letter begins the first
one. -/
def IsStem (name : List Char) : Prop :=
  ∃ c first others, c.isLower = true ∧ name = joinWith '_' ((c :: first) :: others) ∧
    ∀ word ∈ (c :: first) :: others, word ≠ [] ∧
      word.all (fun c => c.isLower || c.isDigit) = true

theorem IsStem.ne_nil {name : List Char} (isStem : IsStem name) : name ≠ [] := by
  obtain ⟨c, first, others, small, rfl, parts⟩ := isStem
  rw [joinWith_cons]
  exact List.cons_ne_nil _ _

theorem isLower_or_isDigit_toLower {c : Char} (alphanumeric : c.isAlphanum = true) :
    (c.toLower.isLower || c.toLower.isDigit) = true := by
  rw [Char.isLower_toLower_eq_isAlpha, Bool.or_eq_true]
  by_cases letter : c.isAlpha = true
  · exact .inl letter
  · have large : ¬c.isUpper = true := fun upper => letter (by simp [Char.isAlpha, upper])
    rw [Char.toLower_eq_of_not_isUpper large]
    exact .inr (by simpa [Char.isAlphanum, letter] using alphanumeric)

theorem IsWord.all_lowercase {word : List Char} (isWord : IsWord word) :
    (Name.lowercase word).all (fun c => c.isLower || c.isDigit) = true := by
  rw [Name.lowercase, List.all_map, List.all_eq_true]
  intro c member
  exact isLower_or_isDigit_toLower (List.all_eq_true.mp isWord.alphanumeric c member)

theorem isDigit_of_isLower {c : Char} (lower : c.isLower = true) : c.isDigit = false :=
  isDigit_of_isAlpha (Bool.or_eq_true_iff.mpr (.inr lower))

/-- Small words with underscores between them become a stem when a leading digit gets its letter. -/
theorem isStem_guardDigit {part : List Char} {parts : List (List Char)}
    (small : ∀ word ∈ part :: parts, word ≠ [] ∧
      word.all (fun c => c.isLower || c.isDigit) = true) :
    IsStem (guardDigit 'x' (joinWith '_' (part :: parts))) := by
  obtain ⟨⟨filled, own⟩, others⟩ := List.forall_mem_cons.mp small
  cases part with
  | nil => exact absurd rfl filled
  | cons c rest =>
      rw [joinWith_cons, List.cons_append, guardDigit]
      split
      next digit =>
        refine ⟨'x', c :: rest, parts, by decide, by rw [joinWith_cons]; rfl, ?_⟩
        refine List.forall_mem_cons.mpr ⟨⟨List.cons_ne_nil _ _, ?_⟩, others⟩
        rw [List.all_cons, own]
        rfl
      next other =>
        have lower : c.isLower = true := by
          rw [List.all_cons, Bool.and_eq_true, Bool.or_eq_true] at own
          exact own.1.resolve_right other
        exact ⟨c, rest, parts, lower, by rw [joinWith_cons]; rfl, small⟩

/-- A text without words has no file name, and any other is stored under a stem. -/
theorem snakeChars_eq_nil_or_isStem (text : List Char) :
    words text = [] ∧ snakeChars text = [] ∨ IsStem (snakeChars text) := by
  have areWords : ∀ word ∈ words text, IsWord word := fun _ => isWord_of_mem_words
  rw [snakeChars_eq]
  generalize words text = parts at areWords
  cases parts with
  | nil => exact .inl ⟨rfl, rfl⟩
  | cons word others =>
      right
      apply isStem_guardDigit
      intro part member
      obtain ⟨own, inside, rfl⟩ := List.mem_map.mp (show part ∈ (word :: others).map lowercase from
        member)
      have isWord := areWords own inside
      exact ⟨isWord.lowercase.nonempty, isWord.all_lowercase⟩

/-- What is spelled like a class name is stored under a stem. -/
theorem isStem_snakeChars {name : List Char} (spelled : Grammar.className.spells name = true) :
    IsStem (snakeChars name) := by
  refine (snakeChars_eq_nil_or_isStem name).resolve_left fun ⟨wordless, _⟩ => ?_
  have nameless : pascalChars name = [] := by
    rw [pascalChars, wordless]
    rfl
  rw [pascalChars_of_spells spelled] at nameless
  rw [nameless] at spelled
  cases spelled

end DartModels.Name
