import DartModels.Proofs.Checked
import DartModels.Proofs.Schema.OverrideScope

/-
Each generation option decides on one aspect of the fields and on nothing else.
-/

namespace DartModels.Schema

open DartModels.Document
open DartModels.Name
open DartModels.Options

/-- Models of one name and origin whose fields are alike one by one. -/
structure Model.Alike (alike : Field → Field → Prop) (first second : Model) : Prop where
  name : first.name = second.name
  origin : first.origin = second.origin
  fields : List.Forall₂ alike first.fields second.fields

/-- Files of the same classes in the same order whose fields are alike one by one. -/
def ModelFile.Alike (alike : Field → Field → Prop) (first second : ModelFile) : Prop :=
  List.Forall₂ (Model.Alike alike) first.models second.models

/-- Fields for one member under one name; they differ at most in their defaults and in whether
the whole type is nullable. -/
structure Field.SameSlot (first second : Field) : Prop extends Field.SameMember first second where
  name : first.name = second.name
  annotated : first.needsKey = second.needsKey

/-- Each option that is on in the first configuration is on in the second one. -/
structure OptionsKept (first second : Config) : Prop where
  nullable : first.makeNullable.holds = true → second.makeNullable.holds = true
  defaults : first.useDefaultValues.holds = true → second.useDefaultValues.holds = true

namespace Default

theorem key?_asNullable (type : TypeRef) : key? type.asNullable = key? type := by
  cases type <;> rfl

theorem literal?_asNullable (defaults : Defaults) (type : TypeRef) :
    literal? defaults type.asNullable = literal? defaults type := by
  cases type <;> rfl

/-- The types that take a default from the configured texts are those that have a key there. -/
theorem isSome_of_literal? {defaults : Defaults} {type : TypeRef} {literal : Option String}
    (ok : literal? defaults type = .ok literal) : literal.isSome = (key? type).isSome := by
  cases type with
  | scalar kind nullable =>
      rw [literal?] at ok
      cases read : scalarLiteral defaults kind with
      | error excess => simp [read, Except.map] at ok
      | ok text =>
          rw [read] at ok
          cases ok
          rfl
  | _ =>
      cases ok
      rfl

end Default

theorem configuredDefault_asNullable (config : Config) (type : TypeRef) :
    configuredDefault config type.asNullable = configuredDefault config type := by
  simp only [configuredDefault, Default.key?_asNullable, Default.literal?_asNullable]

/-- A default does not depend on whether the type is marked nullable. -/
theorem fieldDefault_marked (config : Config) (override : Option Override) (type : TypeRef)
    (marked : Bool) :
    fieldDefault config override (if marked then type.asNullable else type) =
      fieldDefault config override type := by
  cases marked with
  | false => rfl
  | true =>
      rw [if_pos rfl]
      simp only [fieldDefault, configuredDefault_asNullable]

theorem isSome_of_configuredDefault {config : Config} {type : TypeRef} {literal : Option String}
    (ok : configuredDefault config type = .ok literal) :
    literal.isSome = (Default.key? type).isSome := by
  unfold configuredDefault at ok
  split at ok
  next defaults _ =>
    exact Default.isSome_of_literal? (eq_ok_of_mapError ok)
  next => cases ok
  next keyless =>
    cases ok
    rw [keyless]
  next => cases ok

/-- A field has a default if an override gives one, or if the configured ones are in use and its
type takes one of them. -/
theorem isSome_of_fieldDefault {config : Config} {override : Option Override} {type : TypeRef}
    {literal : Option String} (ok : fieldDefault config override type = .ok literal) :
    literal.isSome = ((askedDefault override).isSome ||
      config.useDefaultValues.holds && (Default.key? type).isSome) := by
  unfold fieldDefault at ok
  split at ok
  next text asked =>
    cases ok
    rw [asked]
    rfl
  next unasked =>
    rw [unasked]
    split at ok
    next used => simpa [used] using isSome_of_configuredDefault ok
    next unused =>
      cases ok
      simp [unused]

/-- What decides on whether a field must be given. -/
theorem isRequired_of_completeField {config : Config} {override : Option Override}
    {name key : String} {inferred : TypeRef} {field : Field}
    (completed : completeField config override name key inferred = .ok field) :
    field.isRequired = (!(wantsNullable config override || inferred.acceptsNull) &&
      !((askedDefault override).isSome ||
        config.useDefaultValues.holds && (Default.key? inferred).isSome)) := by
  obtain ⟨-, -, type⟩ := completeField_eq_ok completed
  have default := fieldDefault_of_completeField completed
  rw [type, fieldDefault_marked] at default
  rw [Field.isRequired, ← isSome_of_fieldDefault default, Option.not_isSome, type]
  cases wantsNullable config override with
  | false => rfl
  | true => simp [acceptsNull_asNullable]

/-- Switching an option on never makes an override ask for less nullability. -/
theorem wantsNullable_of_kept {first second : Config} (kept : OptionsKept first second)
    {override : Option Override} (wanted : wantsNullable first override = true) :
    wantsNullable second override = true := by
  unfold wantsNullable at wanted ⊢
  split at wanted
  next => exact kept.nullable wanted
  next => exact kept.nullable wanted
  next => exact wanted

variable {first second : Config}

/-- One member has the same slot under any two configurations. -/
theorem sameSlot_completed {override : Option Override} {name key : String} {inferred : TypeRef}
    {field twin : Field} (completed : completeField first override name key inferred = .ok field)
    (also : completeField second override name key inferred = .ok twin) : field.SameSlot twin := by
  obtain ⟨named, keyed, type⟩ := completeField_eq_ok completed
  obtain ⟨naming, keying, twinType⟩ := completeField_eq_ok also
  have marked : field.type.asNullable = twin.type.asNullable := by
    rw [type, twinType, asNullable_marked, asNullable_marked]
  constructor
  case toSameMember =>
    refine ⟨keyed.trans keying.symm, ?_, marked⟩
    rw [Field.converter?, Field.converter?, ← scalar?_asNullable, marked, scalar?_asNullable]
  case name => rw [named, naming]
  case annotated => rw [Field.needsKey, Field.needsKey, named, naming, keyed, keying]

/-- The nullability that is configured has no say in the default. -/
theorem sameDefault_completed (used : first.useDefaultValues = second.useDefaultValues)
    (configured : first.defaults = second.defaults) {override : Option Override}
    {name key : String} {inferred : TypeRef} {field twin : Field}
    (completed : completeField first override name key inferred = .ok field)
    (also : completeField second override name key inferred = .ok twin) :
    field.defaultLiteral = twin.defaultLiteral := by
  have default := fieldDefault_of_completeField completed
  have other := fieldDefault_of_completeField also
  rw [(completeField_eq_ok completed).2.2, fieldDefault_marked] at default
  rw [(completeField_eq_ok also).2.2, fieldDefault_marked] at other
  have same : fieldDefault first override inferred = fieldDefault second override inferred := by
    simp only [fieldDefault, configuredDefault, used, configured]
  exact Except.ok.inj (default.symm.trans (same.trans other))

/-- The defaults that are configured have no say in the type. -/
theorem sameType_completed (nullable : first.makeNullable = second.makeNullable)
    {override : Option Override} {name key : String} {inferred : TypeRef} {field twin : Field}
    (completed : completeField first override name key inferred = .ok field)
    (also : completeField second override name key inferred = .ok twin) :
    field.type = twin.type := by
  have wanted : wantsNullable first override = wantsNullable second override := by
    simp only [wantsNullable, nullable]
  rw [(completeField_eq_ok completed).2.2, (completeField_eq_ok also).2.2, wanted]

/-- A field that need not be given need not be given with more options switched on either. -/
theorem optional_completed (kept : OptionsKept first second) {override : Option Override}
    {name key : String} {inferred : TypeRef} {field twin : Field}
    (completed : completeField first override name key inferred = .ok field)
    (also : completeField second override name key inferred = .ok twin)
    (optional : field.isRequired = false) : twin.isRequired = false := by
  rw [isRequired_of_completeField completed] at optional
  rw [isRequired_of_completeField also]
  simp only [Bool.and_eq_false_iff, Bool.not_eq_false', Bool.or_eq_true, Bool.and_eq_true]
    at optional ⊢
  rcases optional with (wanted | accepts) | (asked | ⟨used, takes⟩)
  · exact .inl (.inl (wantsNullable_of_kept kept wanted))
  · exact .inl (.inr accepts)
  · exact .inr (.inl asked)
  · exact .inr (.inr ⟨kept.defaults used, takes⟩)

section TwoWalks

variable {rules others : Rules} {alike : Field → Field → Prop}

/-- Whatever two configurations make of one member is alike. -/
def CompletesAlike (alike : Field → Field → Prop) (first second : Config) : Prop :=
  ∀ override name key inferred field twin,
    completeField first override name key inferred = .ok field →
    completeField second override name key inferred = .ok twin → alike field twin

mutual

/-- Two walks over one value give it the same type and go on with the same class names. -/
theorem TypeWalk.alike (pairs : CompletesAlike alike rules.config others.config)
    {place : Place} {key : String} {depth : Nat} {names after last : Registry} {node : Node}
    {inferred other : TypeRef} {models twins : List Model} :
    TypeWalk rules place key depth names node inferred models after →
    TypeWalk others place key depth names node other twins last →
      inferred = other ∧ List.Forall₂ (Model.Alike alike) models twins ∧ after = last
  | .null, .null => ⟨rfl, .nil, rfl⟩
  | .boolean _, .boolean _ => ⟨rfl, .nil, rfl⟩
  | .integer _, .integer _ => ⟨rfl, .nil, rfl⟩
  | .real _, .real _ => ⟨rfl, .nil, rfl⟩
  | .text _, .text _ => ⟨rfl, .nil, rfl⟩
  | .unknown, .unknown => ⟨rfl, .nil, rfl⟩
  | .array _ inside, .array _ twin => by
      obtain ⟨rfl, models, rfl⟩ := inside.alike pairs twin
      exact ⟨rfl, models, rfl⟩
  | .object _ named inside, .object _ naming twin => by
      cases named.symm.trans naming
      obtain ⟨fields, models, rfl⟩ := inside.alike pairs twin
      exact ⟨rfl, .cons ⟨rfl, rfl, fields⟩ models, rfl⟩

theorem ElementWalk.alike (pairs : CompletesAlike alike rules.config others.config)
    {key : String} {depth : Nat} {names after last : Registry} {items : List Node}
    {element other : TypeRef} {models twins : List Model} :
    ElementWalk rules key depth names items element models after →
    ElementWalk others key depth names items other twins last →
      element = other ∧ List.Forall₂ (Model.Alike alike) models twins ∧ after = last
  | .none, .none => ⟨rfl, .nil, rfl⟩
  | .skip found, .skip twin => found.alike pairs twin
  | .skip _, .first present _ => by cases present
  | .first present _, .skip _ => by cases present
  | .first _ found, .first _ twin => found.alike pairs twin

theorem FieldsWalk.alike (pairs : CompletesAlike alike rules.config others.config)
    {overrides : List Override} {depth : Nat} {taken names after last : Registry}
    {members : List (String × Node)} {fields twinFields : List Field}
    {models twins : List Model} :
    FieldsWalk rules overrides depth taken names members fields models after →
    FieldsWalk others overrides depth taken names members twinFields twins last →
      List.Forall₂ alike fields twinFields ∧
        List.Forall₂ (Model.Alike alike) models twins ∧ after = last
  | .none, .none => ⟨.nil, .nil, rfl⟩
  | .member named found completed rest, .member naming twin completion more => by
      cases named.symm.trans naming
      obtain ⟨rfl, inner, rfl⟩ := found.alike pairs twin
      obtain ⟨fields, later, rfl⟩ := rest.alike pairs more
      exact ⟨.cons (pairs _ _ _ _ _ _ completed completion) fields, List.rel_append inner later,
        rfl⟩

end

end TwoWalks

/-- Two inferences from one document under two configurations give the same classes, with fields
that are alike. -/
theorem FileWalk.alike {alike : Field → Field → Prop} (pairs : CompletesAlike alike first second)
    {overrides : List Override} {rootName converterImport : String} {root : Node}
    {file other : ModelFile}
    (walk : FileWalk first overrides rootName converterImport root file)
    (also : FileWalk second overrides rootName converterImport root other) :
    file.Alike alike other := by
  cases walk with
  | root limited within named inside =>
      cases also with
      | root _ _ naming twin =>
          cases named.symm.trans naming
          obtain ⟨fields, models, -⟩ := inside.alike pairs twin
          exact .cons ⟨rfl, rfl, fields⟩ models

theorem Field.required_or_optional (field : Field) :
    field.isRequired = true ∨ field.type.acceptsNull = true ∨
      field.defaultLiteral.isSome = true := by
  unfold isRequired
  cases field.type.acceptsNull <;> cases field.defaultLiteral <;> simp

/-- Two configurations lead to the same classes with the same slots. Nullability has no say in the
defaults nor the defaults in the types, no field has to be given because an option was switched on,
and a field that need not be given accepts null or has a default. -/
theorem infer_option_scope {overrides : List Override} {rootName converterImport : String}
    {root : Node} {file other : ModelFile}
    (ok : (infer first overrides rootName converterImport root).result = .ok file)
    (also : (infer second overrides rootName converterImport root).result = .ok other) :
    file.Alike Field.SameSlot other ∧
      (first.useDefaultValues = second.useDefaultValues → first.defaults = second.defaults →
        file.Alike (fun field twin => field.defaultLiteral = twin.defaultLiteral) other) ∧
      (first.makeNullable = second.makeNullable →
        file.Alike (fun field twin => field.type = twin.type) other) ∧
      (OptionsKept first second →
        file.Alike (fun field twin => field.isRequired = false → twin.isRequired = false) other) ∧
      ∀ model ∈ file.models, ∀ field ∈ model.fields,
        field.isRequired = true ∨ field.type.acceptsNull = true ∨
          field.defaultLiteral.isSome = true := by
  have walk := FileWalk.of_infer ok
  have twin := FileWalk.of_infer also
  refine ⟨?slots, ?defaults, ?types, ?optional, ?fields⟩
  case slots => exact walk.alike (fun _ _ _ _ _ _ => sameSlot_completed) twin
  case defaults =>
    intro used configured
    exact walk.alike (fun _ _ _ _ _ _ => sameDefault_completed used configured) twin
  case types =>
    intro nullable
    exact walk.alike (fun _ _ _ _ _ _ => sameType_completed nullable) twin
  case optional =>
    intro kept
    exact walk.alike (fun _ _ _ _ _ _ => optional_completed kept) twin
  case fields => exact fun _ _ field _ => field.required_or_optional

/-- The defaults of the sample in use, without any field made nullable. -/
def orderFilled : Config := { orderConfig with makeNullable := .boolean false }

def orderFilledFile : ModelFile where
  rootName := "item"
  converterImport := "converter.dart"
  models :=
    [⟨"Item", "item",
        [⟨"items", "items", .listOf (.model "Item2" true) false, some "const []"⟩,
          ⟨"item", "item", .model "Item3" false, none⟩,
          ⟨"userId", "user-id", .scalar .integer false, some "0"⟩,
          ⟨"classField", "userId", .scalar .string false, some "''"⟩,
          ⟨"classField2", "userId", .scalar .boolean false, some "false"⟩]⟩,
      ⟨"Item2", "item",
        [⟨"id", "id", .scalar .integer false, some "0"⟩,
          ⟨"tags", "tags", .listOf (.scalar .string true) false, some "const []"⟩]⟩,
      ⟨"Item3", "item",
        [⟨"grid", "grid", .listOf (.listOf (.untyped false) true) false, some "const []"⟩,
          ⟨"meta", "meta", .untyped false, none⟩]⟩]

/-- The file without defaults, in which only an untyped field need not be given. -/
def orderPlainFile : ModelFile :=
  { orderFilledFile with
    models := orderFilledFile.models.map fun model =>
      { model with
        fields := model.fields.map fun field => { field with defaultLiteral := none } } }

theorem infer_option_scope_orderSample :
    (infer .standard orderOverrides "item" "converter.dart" orderSample).result =
        .ok orderPlainFile ∧
      (infer orderFilled orderOverrides "item" "converter.dart" orderSample).result =
        .ok orderFilledFile ∧
      orderPlainFile.Alike Field.SameSlot orderFile ∧
      orderFilledFile.Alike (fun field twin => field.defaultLiteral = twin.defaultLiteral)
        orderFile ∧
      orderPlainFile.Alike (fun field twin => field.type = twin.type) orderFilledFile ∧
      orderPlainFile.Alike (fun field twin => field.isRequired = false → twin.isRequired = false)
        orderFile := by
  have plain : (infer .standard orderOverrides "item" "converter.dart" orderSample).result =
      .ok orderPlainFile := rfl
  have filled : (infer orderFilled orderOverrides "item" "converter.dart" orderSample).result =
      .ok orderFilledFile := rfl
  have kept : OptionsKept .standard orderConfig := ⟨fun _ => rfl, fun _ => rfl⟩
  exact ⟨plain, filled,
    (infer_option_scope plain infer_orderSample).1,
    (infer_option_scope filled infer_orderSample).2.1 rfl rfl,
    (infer_option_scope plain filled).2.2.1 rfl,
    (infer_option_scope plain infer_orderSample).2.2.2.1 kept⟩

end DartModels.Schema
