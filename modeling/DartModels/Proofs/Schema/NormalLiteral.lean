import DartModels.Proofs.Dart.Literal
import DartModels.Proofs.Number.Layout
import DartModels.Proofs.Schema.UserLiteral
import DartModels.Proofs.Text.Trimming

/-
The default literals that configured texts lead to are in normal form: each has the form of its
kind, and all but strings lead to themselves when they are configured in turn.
-/

namespace DartModels.Schema.Default

open DartModels.Dart
open DartModels.Number
open DartModels.Options
open DartModels.Text

/-! Kinds of literals -/

/-- What a default literal depends on. -/
inductive Kind where
  | scalar (kind : Scalar)
  | list
  deriving DecidableEq, Repr

namespace Kind

/-- Neither untyped fields nor models have a kind, and accepting null changes none. -/
def of? : TypeRef → Option Kind
  | .untyped _ => none
  | .model _ _ => none
  | .scalar kind _ => some (.scalar kind)
  | .list _ => some .list
  | .listOf _ _ => some .list

/-- The configured text of a kind. -/
def configured (defaults : Defaults) : Kind → String
  | .scalar .string => defaults.stringValue
  | .scalar .integer => defaults.intValue
  | .scalar .real => defaults.doubleValue
  | .scalar .boolean => defaults.boolValue
  | .list => defaults.listValue

def key : Kind → String
  | .scalar kind => scalarKey kind
  | .list => "list_value"

/-- The literal that a configured text leads to. -/
def literal : Kind → String → Except TooManyDigits String
  | .scalar .string, raw => .ok (StringLiteral.literal raw)
  | .scalar .integer, raw => integerLiteral raw
  | .scalar .real, raw => .ok (realLiteral raw)
  | .scalar .boolean, raw => .ok (booleanLiteral raw)
  | .list, raw => .ok (listLiteral raw)

theorem literal?_eq (defaults : Defaults) (type : TypeRef) :
    literal? defaults type =
      match of? type with
      | none => .ok none
      | some kind => (kind.literal (kind.configured defaults)).map some := by
  cases type with
  | scalar kind nullable => cases kind <;> rfl
  | _ => rfl

theorem exists_set (kind : Kind) (defaults : Defaults) (text : String) :
    ∃ fed, defaults.set kind.key text = .ok fed ∧ kind.configured fed = text := by
  cases kind with
  | scalar kind => cases kind <;> exact ⟨_, rfl, rfl⟩
  | list => exact ⟨_, rfl, rfl⟩

end Kind

/-! Integers -/

theorem integerLiteral_eq_ok {raw literal : String} (made : integerLiteral raw = .ok literal) :
    (takeInteger digitValue? (trimStart raw.toList) = none ∧ literal = "0") ∨
      ∃ negative digits, takeInteger digitValue? (trimStart raw.toList) = some (negative, digits) ∧
        digits.length ≤ maxDigits ∧ literal = toString (signed negative (ofDigits digits)) := by
  unfold integerLiteral at made
  split at made
  next none =>
    cases made
    exact .inl ⟨none, rfl⟩
  next negative digits found =>
    unfold ofSignedDigits at made
    split at made
    next => cases made
    next few =>
      cases made
      exact .inr ⟨negative, digits, found, Nat.not_lt.mp few, rfl⟩

theorem integerLiteral_toString {n : Int} (few : (Nat.toDigits 10 n.natAbs).length ≤ maxDigits) :
    integerLiteral (toString n) = .ok (toString n) := by
  rw [integerLiteral, takeInteger_toString]
  dsimp only
  rw [ofSignedDigits_toDigits few]
  rfl

/-- The literal is the text of the leading integer, or zero without one. -/
def IsIntegerOf (raw literal : String) : Prop :=
  IsIntegerText literal.toList ∧ (∀ n, LeadingInteger raw n → literal = toString n) ∧
    ((∀ n, ¬ LeadingInteger raw n) → literal = "0")

theorem isIntegerOf_of_integerLiteral {raw literal : String}
    (made : integerLiteral raw = .ok literal) : IsIntegerOf raw literal := by
  rcases integerLiteral_eq_ok made with ⟨none, rfl⟩ | ⟨negative, digits, found, -, rfl⟩
  · refine ⟨.inl rfl, fun n leads => ?_, fun _ => rfl⟩
    obtain ⟨negative, digits, found, -⟩ := takeInteger_of_leadingInteger leads
    rw [none] at found
    cases found
  · refine ⟨isIntegerText_toString _, fun n leads => ?_, fun without => ?_⟩
    · obtain ⟨negativeToo, digitsToo, foundToo, rfl⟩ := takeInteger_of_leadingInteger leads
      rw [found] at foundToo
      cases foundToo
      rfl
    · exact absurd (leadingInteger_of_takeInteger found) (without _)

theorem integerLiteral_fixed {raw literal : String} (made : integerLiteral raw = .ok literal) :
    integerLiteral literal = .ok literal := by
  rcases integerLiteral_eq_ok made with ⟨-, rfl⟩ | ⟨negative, digits, found, few, rfl⟩
  · exact integerLiteral_toString (show (Nat.toDigits 10 (0 : Int).natAbs).length ≤ maxDigits by decide)
  · apply integerLiteral_toString
    rw [natAbs_signed]
    exact length_toDigits_ofDigits_le (digits_lt_of_takeInteger found) (by decide) few

/-! Doubles -/

/-- The double comes from the front of the text, or it is zero since there is no finite one. -/
def IsFrontReal (raw : String) (value : Binary64) : Prop :=
  (∃ rest, takeReal digitValue? (trimStart raw.toList) = some (value, rest)) ∨
    (∀ other rest, takeReal digitValue? (trimStart raw.toList) = some (other, rest) →
      other.isFinite = false) ∧ value = .zero false

theorem realLiteral_eq_text (raw : String) :
    ∃ value : Binary64, realLiteral raw = value.text ∧ value.isFinite = true ∧ value.ReadsBack ∧
      IsFrontReal raw value := by
  have zero : (Binary64.zero false).ReadsBack := Binary64.readsBack_of_fits false Binary64.fits_zero
  unfold realLiteral
  split
  next value rest found =>
    split
    next finite =>
      exact ⟨value, rfl, finite, Binary64.readsBack_of_takeReal found finite, .inl ⟨rest, found⟩⟩
    next infinite =>
      refine ⟨.zero false, rfl, rfl, zero, .inr ⟨fun other behind read => ?_, rfl⟩⟩
      rw [found] at read
      cases read
      exact Bool.eq_false_iff.mpr infinite
  next none =>
    refine ⟨.zero false, rfl, rfl, zero, .inr ⟨fun other behind read => ?_, rfl⟩⟩
    rw [none] at read
    cases read

/-- The literal has the form of a real, and as a whole it is read as the finite double at the front
of the text, or as zero without one. -/
def IsRealOf (raw literal : String) : Prop :=
  Binary64.IsRealText literal.toList ∧ ∃ value, value.isFinite = true ∧
    takeReal digitValue? (trimStart literal.toList) = some (value, []) ∧ IsFrontReal raw value

theorem isRealOf_realLiteral (raw : String) : IsRealOf raw (realLiteral raw) := by
  obtain ⟨value, same, finite, ⟨form, read⟩, front⟩ := realLiteral_eq_text raw
  rw [same]
  exact ⟨form, value, finite, read, front⟩

theorem realLiteral_fixed (raw : String) : realLiteral (realLiteral raw) = realLiteral raw := by
  obtain ⟨value, same, finite, ⟨-, read⟩, -⟩ := realLiteral_eq_text raw
  rw [same, realLiteral, read]
  exact if_pos finite

/-! Truth values and lists -/

/-- The literal is a truth value, the true one for a text that says so in letters of any case. -/
def IsBooleanOf (raw literal : String) : Prop :=
  literal ∈ ["true", "false"] ∧
    (literal = "true" ↔ (trim raw.toList).map Char.toLower = "true".toList)

theorem isBooleanOf_booleanLiteral (raw : String) : IsBooleanOf raw (booleanLiteral raw) := by
  unfold booleanLiteral
  dsimp only
  split
  next same => exact ⟨by simp, iff_of_true rfl same⟩
  next other => exact ⟨by simp, iff_of_false (by decide) other⟩

theorem booleanLiteral_fixed (raw : String) :
    booleanLiteral (booleanLiteral raw) = booleanLiteral raw := by
  rcases List.mem_pair.mp (isBooleanOf_booleanLiteral raw).1 with same | same <;> rw [same] <;> rfl

/-- The literal is the trimmed text, or the empty list when there is only white space. -/
def IsListOf (raw literal : String) : Prop :=
  (isBlankText raw = true → literal = "const []") ∧
    (isBlankText raw = false → IsTrimOf literal.toList raw.toList)

theorem listLiteral_of_not_blank {raw : String} (some : isBlankText raw = false) :
    listLiteral raw = trimmed raw := by
  have filled : (trimmed raw).isEmpty = false := by
    rw [isEmpty_trimmed, some]
  rw [listLiteral, filled]
  rfl

theorem isListOf_listLiteral (raw : String) : IsListOf raw (listLiteral raw) := by
  refine ⟨listLiteral_of_blank, fun some => ?_⟩
  rw [listLiteral_of_not_blank some, trimmed, String.toList_ofList]
  exact isTrimOf_trim raw.toList

theorem listLiteral_fixed (raw : String) : listLiteral (listLiteral raw) = listLiteral raw := by
  cases blank : isBlankText raw with
  | true =>
      rw [listLiteral_of_blank blank]
      rfl
  | false =>
      have again : trimmed (trimmed raw) = trimmed raw := by
        rw [trimmed, trimmed, String.toList_ofList, (unpadded_trim raw.toList).trim_eq]
      have some : isBlankText (trimmed raw) = false := by
        rw [← isEmpty_trimmed, again, isEmpty_trimmed, blank]
      rw [listLiteral_of_not_blank blank, listLiteral_of_not_blank some, again]

/-! All kinds -/

/-- The form of the literals of a kind, and what they have of the configured text. -/
def Normal : Kind → (raw literal : String) → Prop
  | .scalar .string, raw, literal =>
      ∃ body, literal.toList = '\'' :: body ∧ StringLiteral.read? body = some (raw.toList, [])
  | .scalar .integer, raw, literal => IsIntegerOf raw literal
  | .scalar .real, raw, literal => IsRealOf raw literal
  | .scalar .boolean, raw, literal => IsBooleanOf raw literal
  | .list, raw, literal => IsListOf raw literal

theorem normal_of_literal {kind : Kind} {raw literal : String} (made : kind.literal raw = .ok literal) :
    Normal kind raw literal := by
  cases kind with
  | scalar kind =>
      cases kind with
      | string =>
          cases made
          refine ⟨StringLiteral.escapeChars raw.toList ++ ['\''], ?_,
            StringLiteral.read?_escapeChars raw.toList []⟩
          simp [StringLiteral.literal, StringLiteral.escape]
      | integer => exact isIntegerOf_of_integerLiteral made
      | real =>
          cases made
          exact isRealOf_realLiteral raw
      | boolean =>
          cases made
          exact isBooleanOf_booleanLiteral raw
  | list =>
      cases made
      exact isListOf_listLiteral raw

/-- A literal leads to itself, unless it is written for a string. -/
theorem literal_fixed {kind : Kind} (other : kind ≠ .scalar .string) {raw literal : String}
    (made : kind.literal raw = .ok literal) : kind.literal literal = .ok literal := by
  cases kind with
  | scalar kind =>
      cases kind with
      | string => exact absurd rfl other
      | integer => exact integerLiteral_fixed made
      | real =>
          cases made
          exact congrArg Except.ok (realLiteral_fixed raw)
      | boolean =>
          cases made
          exact congrArg Except.ok (booleanLiteral_fixed raw)
  | list =>
      cases made
      exact congrArg Except.ok (listLiteral_fixed raw)

/-- Only an integer of too many digits has no literal. -/
theorem exists_literal {defaults : Defaults}
    (few : ∀ run, IsDigits run → LeadsWith defaults.intValue run → run.length ≤ maxDigits)
    (kind : Kind) : ∃ literal, kind.literal (kind.configured defaults) = .ok literal := by
  cases kind with
  | scalar kind =>
      cases kind with
      | integer =>
          cases made : integerLiteral defaults.intValue with
          | ok literal => exact ⟨literal, made⟩
          | error excess =>
              obtain ⟨run, isDigits, leads, many, -⟩ := integerLiteral_eq_error made
              exact absurd (few run isDigits leads) (Nat.not_le.mpr many)
      | _ => exact ⟨_, rfl⟩
  | list => exact ⟨_, rfl⟩

/-- Types without a kind have no default and all types of one kind have the same one, which is in
normal form; configured for its kind, it leads to itself again, unless it is written for a
string. -/
theorem literals_normal (defaults : Defaults)
    (few : ∀ run, IsDigits run → LeadsWith defaults.intValue run → run.length ≤ maxDigits) :
    ∃ literalOf : Kind → String,
      (∀ type, literal? defaults type = .ok ((Kind.of? type).map literalOf)) ∧
      (∀ kind, Normal kind (kind.configured defaults) (literalOf kind)) ∧
      ∀ kind, kind ≠ .scalar .string → ∃ fed,
        defaults.set kind.key (literalOf kind) = .ok fed ∧
          ∀ type, Kind.of? type = some kind → literal? fed type = .ok (some (literalOf kind)) := by
  choose literalOf made using exists_literal few
  refine ⟨literalOf, fun type => ?_, fun kind => normal_of_literal (made kind), fun kind other => ?_⟩
  · rw [Kind.literal?_eq]
    cases Kind.of? type with
    | none => rfl
    | some kind =>
        dsimp only
        rw [made kind]
        rfl
  · obtain ⟨fed, set, configured⟩ := kind.exists_set defaults (literalOf kind)
    refine ⟨fed, set, fun type known => ?_⟩
    rw [Kind.literal?_eq, known]
    dsimp only
    rw [configured, literal_fixed other (made kind)]
    rfl

theorem literals_normal_padded :
    ∃ literal, literal? ⟨"", " -007x", "", "", "", none⟩ (.scalar .integer true) = .ok (some literal) ∧
      Normal (.scalar .integer) " -007x" literal ∧ literal = "-7" := by
  have few (run : List Char) (_ : IsDigits run) (leads : LeadsWith " -007x" run) :
      run.length ≤ maxDigits := leads.length_le.trans (by decide)
  obtain ⟨literalOf, made, normal, -⟩ := literals_normal ⟨"", " -007x", "", "", "", none⟩ few
  refine ⟨_, made (.scalar .integer true), normal (.scalar .integer), ?_⟩
  have read : literal? ⟨"", " -007x", "", "", "", none⟩ (.scalar .integer true) =
      .ok (some "-7") := by decide +kernel
  rw [made] at read
  exact Option.some.inj (Except.ok.inj read)

end DartModels.Schema.Default
