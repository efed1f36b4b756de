import DartModels.Proofs.Number.Numeral
import DartModels.Proofs.Options.LastOverride
import DartModels.Proofs.Schema.Naming
import DartModels.Proofs.Schema.ReferenceTree
import DartModels.Proofs.Text.Trimming

/-
What the fields of a model file are made of: the names in their types and their default literals.
-/

namespace DartModels.Schema

open DartModels.Dart
open DartModels.Document
open DartModels.Name
open DartModels.Number
open DartModels.Options
open DartModels.Text

/-- A default expression that is given by the user and not made by the inference. -/
inductive Verbatim (config : Config) (overrides : List Override) : String → Prop
  | asked {override : Override} {text : String} (member : override ∈ overrides)
      (given : override.defaultValue = some text) : Verbatim config overrides text
  | list {defaults : Defaults} (configured : config.defaults = .texts defaults) :
      Verbatim config overrides defaults.listValue

/-- A default literal is cut out of a given expression, or it is the empty list, a string literal,
or a word of numeral characters. -/
inductive LiteralSource (config : Config) (overrides : List Override) : String → Prop
  | given {expression text : String} (verbatim : Verbatim config overrides expression)
      (part : text.toList ⊆ expression.toList) : LiteralSource config overrides text
  | emptyList : LiteralSource config overrides "const []"
  | quoted (value : String) : LiteralSource config overrides (StringLiteral.literal value)
  | numeral {text : String} (numeral : IsNumeral text.toList) :
      LiteralSource config overrides text

/-- The field was completed under the configuration, with one of the overrides or none. -/
def Field.CompletedBy (config : Config) (overrides : List Override) (field : Field) : Prop :=
  ∃ override name key inferred, (∀ given ∈ override, given ∈ overrides) ∧
    completeField config override name key inferred = .ok field

theorem Field.CompletedBy.of_none {config : Config} {overrides : List Override} {field : Field}
    (completed : field.CompletedBy config []) : field.CompletedBy config overrides := by
  obtain ⟨override, name, key, inferred, known, completed⟩ := completed
  have none : ∀ given ∈ override, given ∈ overrides := fun given found =>
    absurd (known given found) List.not_mem_nil
  exact ⟨override, name, key, inferred, none, completed⟩

namespace Default

theorem isNumeral_integerLiteral {raw text : String} (ok : integerLiteral raw = .ok text) :
    IsNumeral text.toList := by
  unfold integerLiteral at ok
  split at ok
  next =>
    cases ok
    decide
  next negative digits found =>
    cases read : ofSignedDigits negative digits with
    | error excess =>
        rw [read] at ok
        cases ok
    | ok value =>
        rw [read] at ok
        cases ok
        exact isNumeral_toString_int value

theorem isNumeral_realLiteral (raw : String) : IsNumeral (realLiteral raw).toList := by
  unfold realLiteral
  split
  next value rest found =>
    split
    next finite => exact Binary64.isNumeral_text_of_isFinite finite
    next => decide
  next => decide

theorem isNumeral_booleanLiteral (raw : String) : IsNumeral (booleanLiteral raw).toList := by
  unfold booleanLiteral
  dsimp only
  split <;> decide

theorem literalSource_listLiteral {config : Config} {overrides : List Override}
    {defaults : Defaults} (configured : config.defaults = .texts defaults) :
    LiteralSource config overrides (listLiteral defaults.listValue) := by
  unfold listLiteral
  dsimp only
  split
  · exact .emptyList
  · refine .given (.list configured) ?_
    rw [trimmed, String.toList_ofList]
    exact (infix_trim _).subset

theorem literalSource_scalarLiteral {config : Config} {overrides : List Override}
    {defaults : Defaults} {kind : Scalar} {text : String}
    (ok : scalarLiteral defaults kind = .ok text) : LiteralSource config overrides text := by
  cases kind with
  | string =>
      obtain rfl := Except.ok.inj ok
      exact .quoted defaults.stringValue
  | integer => exact .numeral (isNumeral_integerLiteral ok)
  | real =>
      obtain rfl := Except.ok.inj ok
      exact .numeral (isNumeral_realLiteral defaults.doubleValue)
  | boolean =>
      obtain rfl := Except.ok.inj ok
      exact .numeral (isNumeral_booleanLiteral defaults.boolValue)

/-- The configured texts lead to literals of their kind; only that of lists is kept as given. -/
theorem literalSource {config : Config} {overrides : List Override} {defaults : Defaults}
    {type : TypeRef} {text : String} (configured : config.defaults = .texts defaults)
    (ok : literal? defaults type = .ok (some text)) : LiteralSource config overrides text := by
  cases type with
  | untyped _ | model _ _ => cases ok
  | list _ | listOf _ _ =>
      obtain rfl := Option.some.inj (Except.ok.inj ok)
      exact literalSource_listLiteral configured
  | scalar kind _ =>
      rw [literal?] at ok
      cases read : scalarLiteral defaults kind with
      | error excess =>
          rw [read] at ok
          cases ok
      | ok value =>
          rw [read] at ok
          obtain rfl := Option.some.inj (Except.ok.inj ok)
          exact literalSource_scalarLiteral read

end Default

theorem literalSource_of_configuredDefault {config : Config} {overrides : List Override}
    {type : TypeRef} {text : String} (ok : configuredDefault config type = .ok (some text)) :
    LiteralSource config overrides text := by
  unfold configuredDefault at ok
  split at ok
  next _ _ defaults configured =>
    cases literal : Default.literal? defaults type with
    | error excess =>
        rw [literal] at ok
        cases ok
    | ok found =>
        rw [literal] at ok
        cases ok
        exact Default.literalSource configured literal
  all_goals cases ok

/-- The default literal of a completed field has one of the sources. -/
theorem Field.CompletedBy.literalSource {config : Config} {overrides : List Override}
    {field : Field} (completed : field.CompletedBy config overrides) {text : String}
    (found : field.defaultLiteral = some text) : LiteralSource config overrides text := by
  obtain ⟨override, name, key, inferred, known, completed⟩ := completed
  have default := fieldDefault_of_completeField completed
  rw [found] at default
  unfold fieldDefault at default
  split at default
  next asked given =>
    cases default
    obtain ⟨value, unblank⟩ := Option.filter_eq_some_iff.mp given
    obtain ⟨source, own, value⟩ := Option.bind_eq_some_iff.mp value
    exact .given (.asked (known source own) value) (List.Subset.refl _)
  next =>
    split at default
    · exact literalSource_of_configuredDefault default
    · cases default

variable {rules : Rules}

mutual

theorem TypeWalk.completed {names after : Registry} {place : Place} {key : String} {depth : Nat}
    {models : List Model} {node : Node} {inferred : TypeRef} :
    TypeWalk rules place key depth names node inferred models after →
      ∀ model ∈ models, ∀ field ∈ model.fields, field.CompletedBy rules.config []
  | .null | .boolean _ | .integer _ | .real _ | .text _ | .unknown => List.forall_mem_nil _
  | .array _ inside => inside.completed
  | .object _ _ inside => List.forall_mem_cons.mpr inside.completed

theorem ElementWalk.completed {names after : Registry} {key : String} {depth : Nat}
    {models : List Model} {items : List Node} {element : TypeRef} :
    ElementWalk rules key depth names items element models after →
      ∀ model ∈ models, ∀ field ∈ model.fields, field.CompletedBy rules.config []
  | .none => List.forall_mem_nil _
  | .skip found => found.completed
  | .first _ found => found.completed

/-- Overrides serve the fields of the object itself and none of those below it. -/
theorem FieldsWalk.completed {overrides : List Override} {depth : Nat}
    {taken names after : Registry} {members : List (String × Node)} {fields : List Field}
    {models : List Model} :
    FieldsWalk rules overrides depth taken names members fields models after →
      (∀ field ∈ fields, field.CompletedBy rules.config overrides) ∧
        ∀ model ∈ models, ∀ field ∈ model.fields, field.CompletedBy rules.config []
  | .none => ⟨List.forall_mem_nil _, List.forall_mem_nil _⟩
  | .member _ found completed others => by
      obtain ⟨fields, later⟩ := others.completed
      exact ⟨List.forall_mem_cons.mpr
          ⟨⟨_, _, _, _, fun _ => Override.mem_of_find?, completed⟩, fields⟩,
        List.forall_mem_append.mpr ⟨found.completed, later⟩⟩

end

/-- What a model has for its source: a legal name, and legally named fields whose types name
classes and whose defaults have a source. -/
structure Model.Composed (config : Config) (overrides : List Override) (model : Model) : Prop where
  named : model.LegallyNamed
  references : ∀ name ∈ model.references, Grammar.className.Legal name
  literals : ∀ field ∈ model.fields, ∀ text, field.defaultLiteral = some text →
    LiteralSource config overrides text

theorem FileWalk.composed {config : Config} {overrides : List Override}
    {rootName converterImport : String} {root : Node} {file : ModelFile}
    (walk : FileWalk config overrides rootName converterImport root file) :
    ∀ model ∈ file.models, model.Composed config overrides := by
  cases walk with
  | @root limit members name fields models opened after limited within named inside =>
      have legal : ∀ model ∈ ⟨name, rootName, fields⟩ :: models, model.LegallyNamed :=
        List.forall_mem_cons.mpr ⟨legallyNamed_opened named inside, inside.legallyNamed⟩
      have rooted : Rooted [name] (⟨name, rootName, fields⟩ :: models) := .opened inside.rooted
      obtain ⟨own, below⟩ := inside.completed
      intro model member
      constructor
      case named => exact legal model member
      case references =>
        intro other refers
        have target := rooted.covered.subset
          (List.mem_append_right _ (List.mem_flatMap.mpr ⟨model, member, refers⟩))
        obtain ⟨found, inFile, rfl⟩ := List.mem_map.mp target
        exact (legal found inFile).className
      case literals =>
        intro field inModel text found
        rcases List.mem_cons.mp member with rfl | later
        · exact (own field inModel).literalSource found
        · exact (below model later field inModel).of_none.literalSource found

end DartModels.Schema
