import DartModels.Dart.Structure
import DartModels.Proofs.Dart.Literal
import DartModels.Proofs.Text.Avoidance

/-
What the scan for code makes of texts that are put together of code and literals.
-/

namespace DartModels.Dart

open DartModels.Text

theorem literalLength?_cons {mark c : Char} (noBackslash : c ≠ '\\') (rest : List Char) :
    literalLength? mark (c :: rest) =
      if c = mark then some 1
      else if c = '\n' ∨ c = '\\' then none
      else (literalLength? mark rest).map (· + 1) := by
  rw [literalLength?]
  intro _ _ same
  exact absurd same noBackslash

/-- A stretch of a literal in single quotes that does not end it. -/
def Enclosed (body : List Char) : Prop :=
  ∀ rest, literalLength? '\'' (body ++ rest) = (literalLength? '\'' rest).map (· + body.length)

namespace Enclosed

variable {body later : List Char}

theorem nil : Enclosed [] := by
  intro rest
  simp

theorem append (first : Enclosed body) (second : Enclosed later) : Enclosed (body ++ later) := by
  intro rest
  rw [List.append_assoc, first, second, List.length_append]
  cases literalLength? '\'' rest with
  | none => rfl
  | some length =>
      simp only [Option.map_some, Option.some.injEq]
      omega

theorem plain {c : Char} (noQuote : c ≠ '\'') (noBackslash : c ≠ '\\') (noFeed : c ≠ '\n') :
    Enclosed [c] := by
  intro rest
  rw [List.singleton_append, literalLength?_cons noBackslash, if_neg noQuote,
    if_neg (not_or.mpr ⟨noFeed, noBackslash⟩)]
  rfl

theorem escaped {letter : Char} (inLine : letter ≠ '\n') : Enclosed ['\\', letter] := by
  intro rest
  rw [List.cons_append, List.singleton_append, literalLength?, if_neg inLine]
  rfl

theorem flatMap {text : List Char} {pieces : Char → List Char}
    (each : ∀ c ∈ text, Enclosed (pieces c)) : Enclosed (text.flatMap pieces) := by
  induction text with
  | nil => exact nil
  | cons c text ih =>
      obtain ⟨own, others⟩ := List.forall_mem_cons.mp each
      exact own.append (ih others)

/-- Escaped text does not end the literal around it, whatever the text is. -/
theorem escapeChars (text : List Char) : Enclosed (StringLiteral.escapeChars text) := by
  apply flatMap
  intro c _
  cases StringLiteral.written c with
  | plain ordinary same =>
      simp only [StringLiteral.isOrdinary, Bool.and_eq_true, bne_iff_ne] at ordinary
      obtain ⟨⟨⟨⟨noBackslash, noQuote⟩, -⟩, noFeed⟩, -⟩ := ordinary
      rw [same]
      exact plain noQuote noBackslash noFeed
  | escaped pair back inLine =>
      rw [pair]
      exact escaped inLine

theorem of_avoids {text : String} (avoids : Avoids ['\'', '\\', '\n'] text) :
    Enclosed text.toList := by
  rw [← List.flatMap_singleton' text.toList]
  apply flatMap
  intro c member
  have own := Avoids.iff_forall.mp avoids c member
  simp only [List.mem_cons, List.not_mem_nil, or_false, not_or] at own
  exact plain own.1 own.2.1 own.2.2

end Enclosed

theorem codeAfter_length (skipped rest : List Char) :
    codeAfter skipped.length (skipped ++ rest) = outsideLiterals rest := by
  induction skipped with
  | nil => rfl
  | cons c skipped ih => exact ih

/-- A text has this code whatever follows it, since none of its literals stays open. -/
def HasCode (text code : List Char) : Prop :=
  ∀ rest, outsideLiterals (text ++ rest) = code ++ outsideLiterals rest

namespace HasCode

variable {text later code others : List Char}

theorem append (first : HasCode text code) (second : HasCode later others) :
    HasCode (text ++ later) (code ++ others) := by
  intro rest
  rw [List.append_assoc, List.append_assoc, first, second]

/-- A text without quotes is code. -/
theorem of_quoteless (free : ∀ c ∈ text, c ∉ ['\'', '"']) : HasCode text text := by
  induction text with
  | nil => exact fun _ => rfl
  | cons c text ih =>
      obtain ⟨own, others⟩ := List.forall_mem_cons.mp free
      have noQuote : ¬(c = '\'' ∨ c = '"') := by simpa using own
      intro rest
      rw [List.cons_append, outsideLiterals, codeAfter, if_neg noQuote]
      exact congrArg (c :: ·) (ih others rest)

/-- There is no code in a literal. -/
theorem of_enclosed {body : List Char} (enclosed : Enclosed body) :
    HasCode ('\'' :: (body ++ ['\''])) [] := by
  intro rest
  -- the first quote after the body is the one that ends the literal
  have length : literalLength? '\'' (body ++ ['\''] ++ rest) =
      some (body ++ ['\'']).length := by
    rw [List.append_assoc, enclosed, List.length_append]
    simp [literalLength?, Nat.add_comm]
  rw [List.cons_append, outsideLiterals, codeAfter, if_pos (.inl rfl), length]
  exact codeAfter_length _ rest

theorem literal (value : String) : HasCode (StringLiteral.literal value).toList [] := by
  have shape : (StringLiteral.literal value).toList =
      '\'' :: (StringLiteral.escapeChars value.toList ++ ['\'']) := by
    simp [StringLiteral.literal, StringLiteral.escape]
  rw [shape]
  exact of_enclosed (.escapeChars value.toList)

end HasCode

end DartModels.Dart
