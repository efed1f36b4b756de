import DartModels.Schema.Generate

/-
What an inference did when it did not fail, as a derivation that follows the document.
-/

namespace DartModels.Schema

open DartModels.Document
open DartModels.Name
open DartModels.Options

namespace Traced

variable {Note Failure Answer Next : Type}

/-- A sequence answers exactly when both of its parts do. -/
theorem result_bind_eq_ok {first : Traced Note Failure Answer}
    {next : Answer → Traced Note Failure Next} {answer : Next} :
    (first >>= next).result = .ok answer ↔
      ∃ found, first.result = .ok found ∧ (next found).result = .ok answer := by
  rw [result_bind]
  cases first.result with
  | error failure => simp [Except.bind]
  | ok found => simp [Except.bind]

end Traced

mutual

/-- A walk over a value, with its type, the models found in it and the class names after it. -/
inductive TypeWalk (rules : Rules) :
    Place → String → Nat → Registry → Node → TypeRef → List Model → Registry → Prop
  | null {place : Place} {key : String} {depth : Nat} {names : Registry} :
      TypeWalk rules place key depth names .null (.untyped false) [] names
  | boolean {place : Place} {key : String} {depth : Nat} {names : Registry} (value : Bool) :
      TypeWalk rules place key depth names (.boolean value) (.scalar .boolean false) [] names
  | integer {place : Place} {key : String} {depth : Nat} {names : Registry} (value : Int) :
      TypeWalk rules place key depth names (.integer value) (.scalar .integer false) [] names
  | real {place : Place} {key : String} {depth : Nat} {names : Registry}
      (value : Number.Binary64) :
      TypeWalk rules place key depth names (.real value) (.scalar .real false) [] names
  | text {place : Place} {key : String} {depth : Nat} {names : Registry} (value : String) :
      TypeWalk rules place key depth names (.text value) (.scalar .string false) [] names
  | unknown {place : Place} {key : String} {depth : Nat} {names : Registry} :
      TypeWalk rules place key depth names .unknown (.untyped false) [] names
  | array {place : Place} {key : String} {depth : Nat} {names after : Registry}
      {items : List Node} {element : TypeRef} {models : List Model}
      (within : rules.limit.isExceededBy (depth + 1) = false)
      (inside : ElementWalk rules key (depth + 1) names items element models after) :
      TypeWalk rules place key depth names (.array items) (listType items element) models after
  | object {place : Place} {key : String} {depth : Nat} {names opened after : Registry}
      {members : List (String × Node)} {name : String} {fields : List Field} {models : List Model}
      (within : rules.limit.isExceededBy (depth + 1) = false)
      (named : names.unique (classBase place (place.origin key)) = (name, opened))
      (inside : FieldsWalk rules [] (depth + 1) Registry.empty opened members fields models after) :
      TypeWalk rules place key depth names (.object members) (.model name false)
        (⟨name, place.origin key, fields⟩ :: models) after

/-- A walk over the elements of a list, which ends at the first one that is not null. -/
inductive ElementWalk (rules : Rules) :
    String → Nat → Registry → List Node → TypeRef → List Model → Registry → Prop
  | none {key : String} {depth : Nat} {names : Registry} :
      ElementWalk rules key depth names [] (.untyped false) [] names
  | skip {key : String} {depth : Nat} {names after : Registry} {rest : List Node}
      {element : TypeRef} {models : List Model}
      (found : ElementWalk rules key depth names rest element models after) :
      ElementWalk rules key depth names (.null :: rest) element models after
  | first {key : String} {depth : Nat} {names after : Registry} {item : Node} {rest : List Node}
      {element : TypeRef} {models : List Model} (present : item.isNull = false)
      (found : TypeWalk rules .element key depth names item element models after) :
      ElementWalk rules key depth names (item :: rest) element models after

/-- A walk over the members of an object, with the field names taken before them. -/
inductive FieldsWalk (rules : Rules) :
    List Override → Nat → Registry → Registry → List (String × Node) → List Field → List Model →
      Registry → Prop
  | none {overrides : List Override} {depth : Nat} {taken names : Registry} :
      FieldsWalk rules overrides depth taken names [] [] [] names
  | member {overrides : List Override} {depth : Nat} {taken next names middle after : Registry}
      {key name : String} {value : Node} {rest : List (String × Node)} {inferred : TypeRef}
      {field : Field} {fields : List Field} {models later : List Model}
      (named : taken.unique (fieldBase (Override.find? key overrides) key) = (name, next))
      (found : TypeWalk rules .member key depth names value inferred models middle)
      (completed : completeField rules.config (Override.find? key overrides) name key inferred =
        .ok field)
      (others : FieldsWalk rules overrides depth next middle rest fields later after) :
      FieldsWalk rules overrides depth taken names ((key, value) :: rest) (field :: fields)
        (models ++ later) after

end

/-- A walk over a whole document, whose root is an object. -/
inductive FileWalk (config : Config) (overrides : List Override)
    (rootName converterImport : String) : Node → ModelFile → Prop
  | root {limit : DepthLimit} {members : List (String × Node)} {name : String}
      {fields : List Field} {models : List Model} {opened after : Registry}
      (limited : DepthLimit.ofConfigured config.maxDepth = .ok limit)
      (within : limit.isExceededBy 0 = false)
      (named : Registry.empty.unique (classBase .root rootName) = (name, opened))
      (inside : FieldsWalk ⟨config, limit⟩ overrides 0 Registry.empty opened members fields models
        after) :
      FileWalk config overrides rootName converterImport (.object members)
        ⟨rootName, converterImport, ⟨name, rootName, fields⟩ :: models⟩

variable {rules : Rules}

/-- A depth that passes the check is not beyond the limit. -/
theorem within_of_checkDepth {path : Path} {depth : Nat} {passed : Unit}
    (checked : (rules.checkDepth path depth).result = .ok passed) :
    rules.limit.isExceededBy depth = false := by
  unfold Rules.checkDepth at checked
  cases allowed : rules.limit.check path depth with
  | ok _ => exact DepthLimit.within_of_check allowed
  | error refusal => simp [allowed, Traced.failWith] at checked

/-- A class is opened within the limit, under a name of the registry. -/
theorem openModel_eq_ok {place : Place} {origin : String} {path : Path} {depth : Nat}
    {names opened : Registry} {name : String}
    (ok : (openModel rules place origin path depth names).result = .ok (name, opened)) :
    rules.limit.isExceededBy depth = false ∧
      names.unique (classBase place origin) = (name, opened) := by
  unfold openModel at ok
  obtain ⟨passed, checked, ok⟩ := Traced.result_bind_eq_ok.mp ok
  obtain ⟨_, noted, ok⟩ := Traced.result_bind_eq_ok.mp ok
  exact ⟨within_of_checkDepth checked, Except.ok.inj ok⟩

/-- An element that is not null ends the search for the type of a list. -/
theorem inferElement_cons_of_present {key : String} {path : Path} {depth index : Nat}
    {names : Registry} {item : Node} {rest : List Node} (present : item.isNull = false) :
    inferElement rules key path depth index names (item :: rest) = (do
      let found ← inferType rules .element key (path.index index) depth names item
      Traced.note (.elementResolved path index)
      return found) := by
  cases item with
  | null => cases present
  | _ => rfl

/-- A field keeps its name and key, and its type is marked nullable or left alone. -/
theorem completeField_eq_ok {config : Config} {override : Option Override} {name key : String}
    {inferred : TypeRef} {field : Field}
    (completed : completeField config override name key inferred = .ok field) :
    field.name = name ∧ field.key = key ∧
      field.type = if wantsNullable config override then inferred.asNullable else inferred := by
  unfold completeField at completed
  cases default : fieldDefault config override
      (if wantsNullable config override then inferred.asNullable else inferred) with
  | error failure => simp [default, bind, Except.bind] at completed
  | ok literal =>
      simp only [default, bind, Except.bind, pure, Except.pure, Except.ok.injEq] at completed
      subst completed
      exact ⟨rfl, rfl, rfl⟩

/-- A completed field has the default of its own type. -/
theorem fieldDefault_of_completeField {config : Config} {override : Option Override}
    {name key : String} {inferred : TypeRef} {field : Field}
    (completed : completeField config override name key inferred = .ok field) :
    fieldDefault config override field.type = .ok field.defaultLiteral := by
  unfold completeField at completed
  cases default : fieldDefault config override
      (if wantsNullable config override then inferred.asNullable else inferred) with
  | error failure => simp [default, bind, Except.bind] at completed
  | ok literal =>
      simp only [default, bind, Except.bind, pure, Except.pure, Except.ok.injEq] at completed
      subst completed
      exact default

/-- Fields are inferred for a member when its type is, its field can be completed, and fields are
inferred for the members after it. -/
theorem inferFields_cons_eq_ok {overrides : List Override} {path : Path} {depth : Nat}
    {taken names after : Registry} {key : String} {value : Node} {rest : List (String × Node)}
    {fields : List Field} {models : List Model}
    (ok : (inferFields rules overrides path depth taken names ((key, value) :: rest)).result =
      .ok (fields, models, after)) :
    ∃ inferred inner middle field others later,
      (inferType rules .member key (path.key key) depth names value).result =
          .ok (inferred, inner, middle) ∧
        completeField rules.config (Override.find? key overrides)
          (taken.unique (fieldBase (Override.find? key overrides) key)).1 key inferred =
            .ok field ∧
        (inferFields rules overrides path depth
          (taken.unique (fieldBase (Override.find? key overrides) key)).2 middle rest).result =
            .ok (others, later, after) ∧
        fields = field :: others ∧ models = inner ++ later := by
  rw [inferFields] at ok
  obtain ⟨⟨inferred, inner, middle⟩, walked, ok⟩ := Traced.result_bind_eq_ok.mp ok
  obtain ⟨field, completed, ok⟩ := Traced.result_bind_eq_ok.mp ok
  obtain ⟨⟨others, later, last⟩, continued, ok⟩ := Traced.result_bind_eq_ok.mp ok
  cases ok
  exact ⟨inferred, inner, middle, field, others, later, walked, completed, continued, rfl, rfl⟩

mutual

/-- An inference of a type that does not fail is a walk. -/
theorem TypeWalk.of_inferType {names after : Registry} {place : Place} {key : String} {path : Path}
    {depth : Nat} {inferred : TypeRef} {models : List Model} :
    {node : Node} →
    (inferType rules place key path depth names node).result = .ok (inferred, models, after) →
    TypeWalk rules place key depth names node inferred models after
  | .null, ok => by cases ok; exact .null
  | .boolean value, ok => by cases ok; exact .boolean value
  | .integer value, ok => by cases ok; exact .integer value
  | .real value, ok => by cases ok; exact .real value
  | .text value, ok => by cases ok; exact .text value
  | .unknown, ok => by cases ok; exact .unknown
  | .array items, ok => by
      rw [inferType] at ok
      obtain ⟨passed, checked, ok⟩ := Traced.result_bind_eq_ok.mp ok
      obtain ⟨⟨element, found, rest⟩, walked, ok⟩ := Traced.result_bind_eq_ok.mp ok
      cases ok
      exact .array (within_of_checkDepth checked) (ElementWalk.of_inferElement walked)
  | .object members, ok => by
      rw [inferType] at ok
      obtain ⟨⟨name, opened⟩, checked, ok⟩ := Traced.result_bind_eq_ok.mp ok
      obtain ⟨⟨found, inner, rest⟩, walked, ok⟩ := Traced.result_bind_eq_ok.mp ok
      obtain ⟨within, named⟩ := openModel_eq_ok checked
      cases ok
      exact .object within named (FieldsWalk.of_inferFields walked)

theorem ElementWalk.of_inferElement {names after : Registry} {key : String} {path : Path}
    {depth index : Nat} {inferred : TypeRef} {models : List Model} :
    {items : List Node} →
    (inferElement rules key path depth index names items).result = .ok (inferred, models, after) →
    ElementWalk rules key depth names items inferred models after
  | [], ok => by cases ok; exact .none
  | item :: rest, ok => by
      cases present : item.isNull with
      | true =>
          obtain rfl := Node.eq_null_of_isNull present
          exact .skip (ElementWalk.of_inferElement ok)
      | false =>
          rw [inferElement_cons_of_present present] at ok
          obtain ⟨found, walked, ok⟩ := Traced.result_bind_eq_ok.mp ok
          obtain ⟨_, noted, ok⟩ := Traced.result_bind_eq_ok.mp ok
          cases ok
          exact .first present (TypeWalk.of_inferType walked)

theorem FieldsWalk.of_inferFields {overrides : List Override} {names after taken : Registry}
    {path : Path} {depth : Nat} {fields : List Field} {models : List Model} :
    {members : List (String × Node)} →
    (inferFields rules overrides path depth taken names members).result =
      .ok (fields, models, after) →
    FieldsWalk rules overrides depth taken names members fields models after
  | [], ok => by cases ok; exact .none
  | (key, value) :: rest, ok => by
      obtain ⟨inferred, inner, middle, field, others, later, walked, completed, continued, rfl,
        rfl⟩ := inferFields_cons_eq_ok ok
      exact .member rfl (TypeWalk.of_inferType walked) completed
        (FieldsWalk.of_inferFields continued)

end

/-- An inferred type is not nullable as a whole. -/
theorem TypeWalk.unmarked {names after : Registry} {place : Place} {key : String} {depth : Nat}
    {models : List Model} {node : Node} {inferred : TypeRef} :
    TypeWalk rules place key depth names node inferred models after →
      inferred.isNullable = false
  | .null | .boolean _ | .integer _ | .real _ | .text _ | .unknown => rfl
  | .array _ _ | .object _ _ _ => rfl

theorem ElementWalk.unmarked {names after : Registry} {key : String} {depth : Nat}
    {models : List Model} {items : List Node} {element : TypeRef} :
    ElementWalk rules key depth names items element models after →
      element.isNullable = false
  | .none => rfl
  | .skip found => found.unmarked
  | .first _ found => found.unmarked

/-- A model file is inferred from an object within the limit, with the root's class before the
classes that are found in its members. -/
theorem infer_eq_ok {config : Config} {overrides : List Override}
    {rootName converterImport : String} {root : Node} {file : ModelFile}
    (ok : (infer config overrides rootName converterImport root).result = .ok file) :
    ∃ limit members name opened fields models after,
      root = .object members ∧ DepthLimit.ofConfigured config.maxDepth = .ok limit ∧
        limit.isExceededBy 0 = false ∧
        Registry.empty.unique (classBase .root rootName) = (name, opened) ∧
        (inferFields ⟨config, limit⟩ overrides .root 0 Registry.empty opened members).result =
          .ok (fields, models, after) ∧
        file = ⟨rootName, converterImport, ⟨name, rootName, fields⟩ :: models⟩ := by
  unfold infer inferModels at ok
  obtain ⟨models, ok, named⟩ := Traced.result_bind_eq_ok.mp ok
  obtain ⟨_, defaults, ok⟩ := Traced.result_bind_eq_ok.mp ok
  obtain ⟨_, hashable, ok⟩ := Traced.result_bind_eq_ok.mp ok
  obtain ⟨limit, limited, ok⟩ := Traced.result_bind_eq_ok.mp ok
  obtain ⟨⟨name, opened⟩, checked, ok⟩ := Traced.result_bind_eq_ok.mp ok
  obtain ⟨within, unique⟩ := openModel_eq_ok checked
  cases root with
  | object members =>
      obtain ⟨⟨fields, inner, after⟩, walked, ok⟩ := Traced.result_bind_eq_ok.mp ok
      cases ok
      cases named
      have configured : DepthLimit.ofConfigured config.maxDepth = .ok limit := by
        cases known : DepthLimit.ofConfigured config.maxDepth with
        | error refusal =>
            rw [known] at limited
            cases limited
        | ok value =>
            rw [known] at limited
            cases limited
            rfl
      exact ⟨limit, members, name, opened, fields, inner, after, rfl, configured, within, unique,
        walked, rfl⟩
  | _ => cases ok

/-- An inference of a model file that does not fail is a walk. -/
theorem FileWalk.of_infer {config : Config} {overrides : List Override}
    {rootName converterImport : String} {root : Node} {file : ModelFile}
    (ok : (infer config overrides rootName converterImport root).result = .ok file) :
    FileWalk config overrides rootName converterImport root file := by
  obtain ⟨limit, members, name, opened, fields, models, after, rfl, limited, within, named, walked,
    rfl⟩ := infer_eq_ok ok
  exact .root limited within named (FieldsWalk.of_inferFields walked)

/-- A sample has a model file if its root is an object that one can be inferred from. -/
theorem modelFile_eq_ok {config : Config} {overrides : List Override}
    {rootName converterImport : String} {sample : Sample} {file : ModelFile}
    (ok : (sample.modelFile config overrides rootName converterImport).result = .ok file) :
    ∃ members, (sample.objectRoot config.maxDepth).result = .ok (.object members) ∧
      (infer config overrides rootName converterImport (.object members)).result = .ok file := by
  unfold Sample.modelFile at ok
  obtain ⟨root, rooted, ok⟩ := Traced.result_bind_eq_ok.mp ok
  obtain ⟨found, inferred, ok⟩ := Traced.result_bind_eq_ok.mp ok
  obtain ⟨_, noted, ok⟩ := Traced.result_bind_eq_ok.mp ok
  cases ok
  obtain ⟨_, members, _, _, _, _, _, rfl, _⟩ := infer_eq_ok inferred
  exact ⟨members, rooted, inferred⟩

/-- A sample with a list of lists, null among elements, and keys that ask for one name. -/
def orderSample : Node :=
  .object
    [("items", .array
        [.null, .object [("id", .integer 1), ("tags", .array [.text "a", .null])],
          .object [("id", .integer 2), ("tags", .array [.null, .text "b"])]]),
      ("item", .object [("grid", .array [.array [], .null, .array []]), ("meta", .null)]),
      ("user-id", .integer 7), ("userId", .text "u"), ("userId", .boolean true)]

def orderConfig : Config :=
  { Config.standard with makeNullable := .boolean true, useDefaultValues := .boolean true }

/-- A reserved word as the name of both fields with one key. -/
def orderOverrides : List Override := [⟨.text "userId", some "class", .boolean false, none⟩]

def orderFile : ModelFile where
  rootName := "item"
  converterImport := "converter.dart"
  models :=
    [⟨"Item", "item",
        [⟨"items", "items", .listOf (.model "Item2" true) true, some "const []"⟩,
          ⟨"item", "item", .model "Item3" true, none⟩,
          ⟨"userId", "user-id", .scalar .integer true, some "0"⟩,
          ⟨"classField", "userId", .scalar .string false, some "''"⟩,
          ⟨"classField2", "userId", .scalar .boolean false, some "false"⟩]⟩,
      ⟨"Item2", "item",
        [⟨"id", "id", .scalar .integer true, some "0"⟩,
          ⟨"tags", "tags", .listOf (.scalar .string true) true, some "const []"⟩]⟩,
      ⟨"Item3", "item",
        [⟨"grid", "grid", .listOf (.listOf (.untyped false) true) true, some "const []"⟩,
          ⟨"meta", "meta", .untyped false, none⟩]⟩]

theorem infer_orderSample :
    (infer orderConfig orderOverrides "item" "converter.dart" orderSample).result =
      .ok orderFile := by
  rfl

end DartModels.Schema
