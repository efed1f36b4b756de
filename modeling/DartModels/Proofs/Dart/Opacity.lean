import DartModels.Proofs.Dart.Scan

/-
Literals are opaque to the structural check: what it says of a text depends on what stands before
and after a literal, and not on what stands in it.
-/

namespace DartModels.Dart

open DartModels.Text

/-! The search for a declaration -/

section Words

variable {mark : Char} (text rest : List Char)

/-- A word does not go on over a character that it has not. -/
theorem afterWord?_append_mark {word : List Char} (foreign : mark ∉ word) :
    afterWord? word (text ++ mark :: rest) =
      (afterWord? word text).map (· ++ mark :: rest) := by
  induction word generalizing text with
  | nil => cases text <;> rfl
  | cons w word ih =>
      rw [List.mem_cons, not_or] at foreign
      cases text with
      | nil => simp [afterWord?, Ne.symm foreign.1]
      | cons c text =>
          by_cases same : w = c
          · simp [afterWord?, same, ih _ foreign.2]
          · simp [afterWord?, same]

variable (noBlank : isBlank mark = false)
include noBlank

/-- White space ends at a character that is none. -/
theorem trimStart_append_mark :
    trimStart (text ++ mark :: rest) = trimStart text ++ mark :: rest := by
  induction text with
  | nil => simp [trimStart, noBlank]
  | cons c text ih =>
      cases blank : isBlank c with
      | true => simpa [trimStart, blank] using ih
      | false => simp [trimStart, blank]

theorem afterBlank?_append_mark :
    afterBlank? (text ++ mark :: rest) = (afterBlank? text).map (· ++ mark :: rest) := by
  cases text with
  | nil => simp [afterBlank?, noBlank]
  | cons c text =>
      cases blank : isBlank c with
      | true => simp [afterBlank?, blank, trimStart_append_mark text rest noBlank]
      | false => simp [afterBlank?, blank]

/-- A keyword and the white space after it end before such a character as well. -/
theorem keyword_append_mark {word : List Char} (foreign : mark ∉ word) :
    (afterWord? word (text ++ mark :: rest)).bind afterBlank? =
      ((afterWord? word text).bind afterBlank?).map (· ++ mark :: rest) := by
  rw [afterWord?_append_mark text rest foreign]
  cases afterWord? word text with
  | none => rfl
  | some found => exact afterBlank?_append_mark found rest noBlank

end Words

/-- Nothing of a declaration is a quote, so it is found before the first one or not at all. -/
theorem startsClass_append_quote (text rest : List Char) :
    startsClass (text ++ '\'' :: rest) = startsClass text := by
  unfold startsClass
  rw [keyword_append_mark text rest (by decide) (by decide)]
  cases (afterWord? "class".toList text).bind afterBlank? with
  | none => rfl
  | some found =>
      cases found with
      | nil =>
          have noName : isWordChar '\'' = false := by decide +kernel
          exact noName
      | cons c found => rfl

theorem startsDeclaration_append_quote (text rest : List Char) :
    startsDeclaration (text ++ '\'' :: rest) = startsDeclaration text := by
  unfold startsDeclaration
  rw [keyword_append_mark text rest (by decide) (by decide)]
  cases (afterWord? "abstract".toList text).bind afterBlank? with
  | none => exact startsClass_append_quote text rest
  | some found => exact startsClass_append_quote found rest

/-- Where a line begins before a quote, its declaration has to end before the quote too. -/
theorem startsDeclaration_line_append_quote (text rest : List Char) :
    startsDeclaration (trimStart (text ++ '\'' :: rest)) =
      startsDeclaration (trimStart text) := by
  rw [trimStart_append_mark text rest (by decide), startsDeclaration_append_quote]

theorem laterDeclaration_append_quote (text rest : List Char) :
    laterDeclaration (text ++ '\'' :: rest) =
      (laterDeclaration text || laterDeclaration rest) := by
  induction text with
  | nil => rfl
  | cons c text ih =>
      rw [List.cons_append, laterDeclaration, laterDeclaration, ih,
        startsDeclaration_line_append_quote, Bool.or_assoc]

/-- No line begins where there is no line feed. -/
theorem laterDeclaration_append_of_noFeed {body : List Char} (noFeed : '\n' ∉ body)
    (rest : List Char) : laterDeclaration (body ++ rest) = laterDeclaration rest := by
  induction body with
  | nil => rfl
  | cons c body ih =>
      rw [List.mem_cons, not_or] at noFeed
      rw [List.cons_append, laterDeclaration, beq_eq_false_iff_ne.mpr (Ne.symm noFeed.1),
        Bool.false_and, Bool.false_or, ih noFeed.2]

/-! The code outside of literals -/

/-- A literal that ends in a text ends there whatever follows. -/
theorem literalLength?_append {mark : Char} (noBackslash : mark ≠ '\\') {text : List Char}
    {length : Nat} (ended : literalLength? mark text = some length) (rest : List Char) :
    literalLength? mark (text ++ rest) = some length ∧ length ≤ text.length := by
  fun_induction literalLength? mark text generalizing length with
  | case1 | case2 | case5 => cases ended
  | case3 c text inLine ih =>
      obtain ⟨inner, found, rfl⟩ := Option.map_eq_some_iff.mp ended
      obtain ⟨same, within⟩ := ih found
      rw [List.cons_append, List.cons_append, literalLength?, if_neg inLine, same]
      exact ⟨rfl, Nat.add_le_add_right within 2⟩
  | case4 text =>
      cases ended
      rw [List.cons_append, literalLength?_cons noBackslash, if_pos rfl]
      exact ⟨rfl, Nat.le_add_left 1 text.length⟩
  | case6 c text _ other inside ih =>
      obtain ⟨inner, found, rfl⟩ := Option.map_eq_some_iff.mp ended
      obtain ⟨same, within⟩ := ih found
      rw [List.cons_append, literalLength?_cons (not_or.mp inside).2, if_neg other,
        if_neg inside, same]
      exact ⟨rfl, Nat.add_le_add_right within 1⟩

/-- Every quote of a text belongs to one of its literals, which are found from left to right. -/
def LiteralsClosed (text : List Char) : Prop :=
  ∀ c ∈ outsideLiterals text, c ∉ ['\'', '"']

instance (text : List Char) : Decidable (LiteralsClosed text) :=
  decidable_of_iff (((outsideLiterals text).all fun c => c != '\'' && c != '"') = true)
    (by simp [LiteralsClosed])

/-- Literals that are closed stay closed, and no later one begins in them. -/
theorem codeAfter_append {skipped : Nat} {text : List Char} (within : skipped ≤ text.length)
    (closed : ∀ c ∈ codeAfter skipped text, c ∉ ['\'', '"']) (rest : List Char) :
    codeAfter skipped (text ++ rest) = codeAfter skipped text ++ outsideLiterals rest := by
  fun_induction codeAfter skipped text with
  | case1 skipped =>
      cases Nat.le_zero.mp within
      rfl
  | case2 skipped c text ih => exact ih (Nat.le_of_succ_le_succ within) closed
  | case3 c text quote length found ih =>
      have noBackslash : c ≠ '\\' := by
        rintro rfl
        simp at quote
      obtain ⟨same, inside⟩ := literalLength?_append noBackslash found rest
      rw [List.cons_append, codeAfter, if_pos quote, same]
      exact ih inside closed
  | case4 c text quote =>
      have free := closed c List.mem_cons_self
      simp only [List.mem_cons, List.not_mem_nil, or_false] at free
      exact absurd quote free
  | case5 c text other ih =>
      have later := ih (Nat.zero_le _) fun d member => closed d (List.mem_cons_of_mem c member)
      rw [List.cons_append, codeAfter, if_neg other, later, List.cons_append]

theorem HasCode.of_literalsClosed {text : List Char} (closed : LiteralsClosed text) :
    HasCode text (outsideLiterals text) :=
  codeAfter_append (Nat.zero_le _) closed

/-! Both together -/

section Literals

variable (before value after : String)

theorem toList_around :
    (before ++ StringLiteral.literal value ++ after).toList =
      before.toList ++
        '\'' :: (StringLiteral.escapeChars value.toList ++ '\'' :: after.toList) := by
  simp [StringLiteral.literal, StringLiteral.escape]

/-- A class is declared before the quotes of a literal, or on a later line than theirs. -/
theorem declaresClass_around :
    declaresClass (before ++ StringLiteral.literal value ++ after).toList =
      (declaresClass before.toList || laterDeclaration after.toList) := by
  have behind : laterDeclaration (StringLiteral.escapeChars value.toList ++ '\'' :: after.toList) =
      laterDeclaration after.toList :=
    laterDeclaration_append_of_noFeed (StringLiteral.newline_notMem_escapeChars value.toList) _
  rw [toList_around, declaresClass, startsDeclaration_line_append_quote,
    laterDeclaration_append_quote, behind, ← Bool.or_assoc, declaresClass]

/-- The code around a literal is the code before it and the code after it. -/
theorem outsideLiterals_around {before : String} (closed : LiteralsClosed before.toList) :
    outsideLiterals (before ++ StringLiteral.literal value ++ after).toList =
      outsideLiterals before.toList ++ outsideLiterals after.toList := by
  have code := ((HasCode.of_literalsClosed closed).append (.literal value)) after.toList
  rwa [List.append_nil, ← String.toList_append, ← String.toList_append] at code

end Literals

/-- When every quote before a literal belongs to one that is closed, the structural check gives the
same answer for every text in the literal: the declarations and the brackets that it finds are
those before and after it. -/
theorem checkStructure_ignores_literal {before : String} (closed : LiteralsClosed before.toList)
    (value other after : String) :
    checkStructure (before ++ StringLiteral.literal value ++ after) =
        checkStructure (before ++ StringLiteral.literal other ++ after) ∧
      declaresClass (before ++ StringLiteral.literal value ++ after).toList =
          (declaresClass before.toList || laterDeclaration after.toList) ∧
        outsideLiterals (before ++ StringLiteral.literal value ++ after).toList =
          outsideLiterals before.toList ++ outsideLiterals after.toList := by
  refine ⟨?_, declaresClass_around before value after, outsideLiterals_around value after closed⟩
  simp only [checkStructure, declaresClass_around, outsideLiterals_around _ after closed]

/-- Quotes and brackets within two literals, and a third one that tries to end early. -/
theorem checkStructure_ignores_literal_quoted :
    let before := "class A \x7b f(\"it's (\", 'don\\'t \x7d', "
    LiteralsClosed before.toList ∧
      checkStructure (before ++ StringLiteral.literal "');\n\x7d class B" ++ ");") =
        .error (.unbalanced '\x7b' '\x7d' 1 0) := by
  intro before
  have closed : LiteralsClosed before.toList := by decide +kernel
  have empty : checkStructure (before ++ StringLiteral.literal "" ++ ");") =
      .error (.unbalanced '\x7b' '\x7d' 1 0) := by
    have code : outsideLiterals (before ++ StringLiteral.literal "" ++ ");").toList =
        "class A \x7b f(, , );".toList := by decide +kernel
    rw [checkStructure, if_pos (by decide +kernel)]
    dsimp only
    rw [code]
    rfl
  exact ⟨closed, (checkStructure_ignores_literal closed _ "" _).1.trans empty⟩

end DartModels.Dart
