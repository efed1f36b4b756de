import DartModels.Name.Identifier
import DartModels.Proofs.Name.Numbering

/-
Legal names of classes and parameters, and what suffixes and numbers do to them.
-/

namespace DartModels.Name

/-- No ASCII letter is a digit. -/
theorem isDigit_of_isAlpha {c : Char} (alpha : c.isAlpha = true) : c.isDigit = false := by
  rw [Bool.eq_false_iff]
  intro digit
  have low : c.val.toNat ≤ 57 :=
    UInt32.le_iff_toNat_le.mp (of_decide_eq_true (Bool.and_eq_true_iff.mp digit).2)
  have high : 65 ≤ c.val.toNat := by
    rcases Bool.or_eq_true_iff.mp alpha with upper | lower
    · exact UInt32.le_iff_toNat_le.mp (of_decide_eq_true upper).1
    · have above : 97 ≤ c.val.toNat :=
        UInt32.le_iff_toNat_le.mp (of_decide_eq_true (Bool.and_eq_true_iff.mp lower).1)
      omega
  omega

/-- A grammar says how a name begins, how it goes on and which names it forbids; a digit may go on
any name and stands in no forbidden one. -/
structure Grammar where
  begins : Char → Bool
  continues : Char → Bool
  forbidden : List String
  digit_continues : ∀ c : Char, c.isDigit = true → continues c = true
  forbidden_digitless : (forbidden.all fun word => word.toList.all fun c => !c.isDigit) = true

namespace Grammar

/-- A class name is a capital and then ASCII letters and digits. -/
def className : Grammar where
  begins := Char.isUpper
  continues := Char.isAlphanum
  forbidden := disallowedClassNames
  digit_continues := by
    intro c digit
    simp [Char.isAlphanum, digit]
  forbidden_digitless := by decide

/-- A parameter name is an ASCII letter or an underscore and then identifier characters. -/
def parameterName : Grammar where
  begins c := c.isAlpha || c == '_'
  continues := isIdentifierChar
  forbidden := reservedWords
  digit_continues := by
    intro c digit
    simp [isIdentifierChar, Char.isAlphanum, digit]
  forbidden_digitless := by decide

/-- Whether the characters spell a name of the grammar. -/
def spells (grammar : Grammar) : List Char → Bool
  | [] => false
  | first :: rest => grammar.begins first && rest.all grammar.continues

/-- A legal name is spelled by the grammar and not forbidden. -/
structure Legal (grammar : Grammar) (name : String) : Prop where
  spelled : grammar.spells name.toList = true
  allowed : name ∉ grammar.forbidden

instance (grammar : Grammar) (name : String) : Decidable (grammar.Legal name) :=
  decidable_of_iff (grammar.spells name.toList = true ∧ name ∉ grammar.forbidden)
    ⟨fun parts => ⟨parts.1, parts.2⟩, fun legal => ⟨legal.spelled, legal.allowed⟩⟩

variable {grammar : Grammar}

/-- A spelled name may go on. -/
theorem spells_append {name tail : List Char} (spelled : grammar.spells name = true)
    (more : tail.all grammar.continues = true) : grammar.spells (name ++ tail) = true := by
  cases name with
  | nil => simp [spells] at spelled
  | cons first rest =>
      simp only [spells, Bool.and_eq_true] at spelled
      simp only [List.cons_append, spells, List.all_append, Bool.and_eq_true]
      exact ⟨spelled.1, spelled.2, more⟩

theorem isDigit_of_mem_number {number : Nat} {c : Char} (member : c ∈ (toString number).toList) :
    c.isDigit = true := by
  rw [Nat.toString_eq_ofList_toDigits, String.toList_ofList] at member
  exact Nat.isDigit_of_mem_toDigits (by decide) (by decide) member

/-- Digits at the end of a name keep it legal. -/
theorem Legal.append_digits {name digits : String} (legal : grammar.Legal name)
    (all : digits.toList.all Char.isDigit = true) : grammar.Legal (name ++ digits) := by
  by_cases empty : digits = ""
  · rw [empty, String.append_empty]
    exact legal
  have isDigit : ∀ c ∈ digits.toList, c.isDigit = true := List.all_eq_true.mp all
  constructor
  · rw [String.toList_append]
    apply spells_append legal.spelled
    rw [List.all_eq_true]
    intro c member
    exact grammar.digit_continues c (isDigit c member)
  · intro forbidden
    obtain ⟨c, member⟩ : ∃ c, c ∈ digits.toList :=
      List.exists_mem_of_ne_nil _ (mt String.toList_eq_nil_iff.mp empty)
    have inside : c ∈ (name ++ digits).toList := by
      rw [String.toList_append]
      exact List.mem_append_right _ member
    have digitless := List.all_eq_true.mp
      (List.all_eq_true.mp grammar.forbidden_digitless _ forbidden) c inside
    simp [isDigit c member] at digitless

/-- A number at the end of a name keeps it legal. -/
theorem Legal.append_number {name : String} (legal : grammar.Legal name) (number : Nat) :
    grammar.Legal (name ++ toString number) :=
  legal.append_digits (List.all_eq_true.mpr fun _ => isDigit_of_mem_number)

/-- A registry that is asked for a legal name hands out a legal one. -/
theorem Legal.of_unique {registry next : Registry} {base name : String}
    (legal : grammar.Legal base) (named : registry.unique base = (name, next)) :
    grammar.Legal name := by
  obtain ⟨rfl, rfl⟩ := Prod.mk.inj named
  unfold Registry.numbered
  split
  · exact legal
  · exact legal.append_number _

/-- A legal name is made of the characters that its grammar admits anywhere. -/
theorem Legal.all {name : String} (legal : grammar.Legal name) {admits : Char → Bool}
    (begins : ∀ c, grammar.begins c = true → admits c = true)
    (continues : ∀ c, grammar.continues c = true → admits c = true) :
    name.toList.all admits = true := by
  have spelled := legal.spelled
  cases chars : name.toList with
  | nil => rfl
  | cons first rest =>
      rw [chars, spells, Bool.and_eq_true] at spelled
      rw [List.all_cons, begins first spelled.1, Bool.true_and, List.all_eq_true]
      intro c member
      exact continues c (List.all_eq_true.mp spelled.2 c member)

theorem Legal.isIdentifierChar_className {name : String} (legal : className.Legal name) :
    name.toList.all isIdentifierChar = true := by
  apply legal.all
  · intro c upper
    have capital : c.isAlpha = true := Bool.or_eq_true_iff.mpr (.inl upper)
    simp [isIdentifierChar, Char.isAlphanum, capital]
  · intro c more
    have alphanumeric : c.isAlphanum = true := more
    simp [isIdentifierChar, alphanumeric]

theorem Legal.isIdentifierChar_parameterName {name : String} (legal : parameterName.Legal name) :
    name.toList.all isIdentifierChar = true := by
  apply legal.all
  · intro c first
    have letter : (c.isAlpha || c == '_') = true := first
    rcases Bool.or_eq_true_iff.mp letter with alpha | underscore
    · simp [isIdentifierChar, Char.isAlphanum, alpha]
    · simp [isIdentifierChar, underscore]
  · intro c more
    exact more

/-- A suffix makes a forbidden name legal if it goes on no forbidden name to another. -/
theorem legal_suffixed {name suffix : String} (spelled : grammar.spells name.toList = true)
    (more : suffix.toList.all grammar.continues = true)
    (apart : (grammar.forbidden.all fun word =>
      !grammar.forbidden.contains (word ++ suffix)) = true) :
    grammar.Legal (if grammar.forbidden.contains name then name ++ suffix else name) := by
  split
  next forbidden =>
    constructor
    · rw [String.toList_append]
      exact spells_append spelled more
    · intro member
      have free := List.all_eq_true.mp apart name (List.contains_iff_mem.mp forbidden)
      simp [member] at free
  next allowed => exact ⟨spelled, fun member => allowed (List.contains_iff_mem.mpr member)⟩

/-- Identifier characters spell a parameter name once a letter stands before a leading digit. -/
theorem spells_letterFirst {chars : List Char} (nonempty : chars ≠ [])
    (all : chars.all isIdentifierChar = true) :
    parameterName.spells (letterFirst chars) = true := by
  cases chars with
  | nil => exact absurd rfl nonempty
  | cons first rest =>
      by_cases digit : first.isDigit = true
      · rw [letterFirst, if_pos digit]
        exact spells_append (by decide) all
      · rw [letterFirst, if_neg digit]
        simp only [List.all_cons, Bool.and_eq_true] at all
        obtain ⟨own, others⟩ := all
        have letter : (first.isAlpha || first == '_') = true := by
          simpa [isIdentifierChar, Char.isAlphanum, digit] using own
        simp only [spells, parameterName, Bool.and_eq_true]
        exact ⟨letter, others⟩

/-- Every text is made a legal parameter name. -/
theorem legal_identifier (text : String) : parameterName.Legal (identifier text) := by
  let kept := nonEmptyName (text.toList.filter isIdentifierChar)
  have filled : kept ≠ [] ∧ kept.all isIdentifierChar = true := by
    by_cases empty : (text.toList.filter isIdentifierChar).isEmpty = true
    · have fallback : kept = fallbackName := if_pos empty
      rw [fallback]
      decide
    · have filtered : kept = text.toList.filter isIdentifierChar := if_neg empty
      rw [filtered]
      exact ⟨fun none => empty (List.isEmpty_iff.mpr none),
        List.all_eq_true.mpr fun c member => (List.mem_filter.mp member).2⟩
  have spelled : parameterName.spells (String.ofList (letterFirst kept)).toList = true := by
    rw [String.toList_ofList]
    exact spells_letterFirst filled.1 filled.2
  exact legal_suffixed spelled (by decide) (by decide)

end Grammar

end DartModels.Name
