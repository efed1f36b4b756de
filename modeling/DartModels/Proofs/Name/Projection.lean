import DartModels.Proofs.Name.Legality

/-
The texts that are parameter names already: making a name changes no others, and it never has
anything left to do.
-/

namespace DartModels.Name

namespace Grammar

/-- No digit begins a parameter name. -/
theorem isDigit_of_begins {c : Char} (begins : parameterName.begins c = true) :
    c.isDigit = false := by
  have letter : (c.isAlpha || c == '_') = true := begins
  rcases Bool.or_eq_true_iff.mp letter with alpha | underscore
  · exact isDigit_of_isAlpha alpha
  · rw [beq_iff_eq.mp underscore]
    rfl

/-- Every step that makes a name leaves a legal one alone. -/
theorem identifier_of_legal {name : String} (legal : parameterName.Legal name) :
    identifier name = name := by
  have kept : name.toList.filter isIdentifierChar = name.toList :=
    List.filter_eq_self.mpr (List.all_eq_true.mp legal.isIdentifierChar_parameterName)
  have begun : letterFirst (nonEmptyName name.toList) = name.toList := by
    have spelled := legal.spelled
    cases chars : name.toList with
    | nil =>
        rw [chars] at spelled
        cases spelled
    | cons first rest =>
        rw [chars, spells, Bool.and_eq_true] at spelled
        have noDigit := isDigit_of_begins spelled.1
        rw [nonEmptyName, List.isEmpty_cons, if_neg Bool.false_ne_true, letterFirst, noDigit,
          if_neg Bool.false_ne_true]
  have free : ¬ reservedWords.contains name = true := fun reserved =>
    legal.allowed (List.contains_iff_mem.mp reserved)
  rw [identifier, kept, begun, String.ofList_toList, unreserved, if_neg free]

/-- A text is its own parameter name exactly when it is a legal one. -/
theorem identifier_eq_self_iff {text : String} :
    identifier text = text ↔ parameterName.Legal text :=
  ⟨fun same => same ▸ legal_identifier text, identifier_of_legal⟩

/-- The legal parameter names are what is made of any text, and they are the texts that stay as
they are. Digits behind a name are no reason to change it, so nothing is left to do for the names
of a registry either. -/
theorem identifier_projects (text : String) :
    parameterName.Legal (identifier text) ∧
      (identifier text = text ↔ parameterName.Legal text) ∧
        identifier (identifier text) = identifier text ∧
          (∀ digits : String, digits.toList.all Char.isDigit = true →
            identifier (identifier text ++ digits) = identifier text ++ digits) ∧
            ∀ registry : Registry,
              identifier (registry.unique (identifier text)).1 =
                (registry.unique (identifier text)).1 := by
  have legal := legal_identifier text
  refine ⟨legal, identifier_eq_self_iff, identifier_of_legal legal, ?_, ?_⟩
  · intro digits all
    exact identifier_of_legal (legal.append_digits all)
  · intro registry
    exact identifier_of_legal (legal.of_unique rfl)

/-- Digits with a zero before them, behind a name that a suffix keeps from being reserved. -/
theorem identifier_projects_reserved :
    "007".toList.all Char.isDigit = true ∧ identifier "cl\"as s" = "classField" ∧
      identifier "classField007" = "classField007" := by
  have digits : "007".toList.all Char.isDigit = true := by decide
  have name : identifier "cl\"as s" = "classField" := by decide
  have fixed := (identifier_projects "cl\"as s").2.2.2.1 "007" digits
  rw [name] at fixed
  exact ⟨digits, name, fixed⟩

end Grammar

end DartModels.Name
