import DartModels.Proofs.Checked
import DartModels.Proofs.Schema.Walk

/-
A document that grows at its end keeps what was inferred from it before.
-/

namespace DartModels.Schema

open DartModels.Document
open DartModels.Name
open DartModels.Options

/-- A field is put before the others when its member comes before theirs. -/
theorem inferFields_cons_of_ok {rules : Rules} {overrides : List Override} {path : Path}
    {depth : Nat} {taken names middle after : Registry} {key : String} {value : Node}
    {rest : List (String × Node)} {inferred : TypeRef} {field : Field} {fields : List Field}
    {inner later : List Model}
    (found : (inferType rules .member key (path.key key) depth names value).result =
      .ok (inferred, inner, middle))
    (completed : completeField rules.config (Override.find? key overrides)
      (taken.unique (fieldBase (Override.find? key overrides) key)).1 key inferred = .ok field)
    (others : (inferFields rules overrides path depth
      (taken.unique (fieldBase (Override.find? key overrides) key)).2 middle rest).result =
        .ok (fields, later, after)) :
    (inferFields rules overrides path depth taken names ((key, value) :: rest)).result =
      .ok (field :: fields, inner ++ later, after) := by
  rw [inferFields]
  simp only [Traced.result_bind, Traced.result_ofExcept, found, completed, others, Except.bind,
    Traced.result_pure]

/-- The fields for the first members are inferred as if there were no members after them. -/
theorem inferFields_append_eq_ok {rules : Rules} {overrides : List Override} {path : Path}
    {depth : Nat} {members more : List (String × Node)} {taken names after : Registry}
    {fields : List Field} {models : List Model}
    (ok : (inferFields rules overrides path depth taken names (members ++ more)).result =
      .ok (fields, models, after)) :
    ∃ own inner middle next others later,
      (inferFields rules overrides path depth taken names members).result =
          .ok (own, inner, middle) ∧
        (inferFields rules overrides path depth next middle more).result =
          .ok (others, later, after) ∧
        fields = own ++ others ∧ models = inner ++ later := by
  induction members generalizing taken names fields models with
  | nil => exact ⟨[], [], names, taken, fields, models, rfl, ok, rfl, rfl⟩
  | cons member rest ih =>
      obtain ⟨key, value⟩ := member
      obtain ⟨inferred, inner, middle, field, fields, models, found, completed, continued, rfl,
        rfl⟩ := inferFields_cons_eq_ok ok
      obtain ⟨own, others, last, next, fields, later, walked, rest, rfl, rfl⟩ := ih continued
      exact ⟨field :: own, inner ++ others, last, next, fields, later,
        inferFields_cons_of_ok found completed walked, rest, rfl, (List.append_assoc ..).symm⟩

/-- A further member at the end leads to one field. -/
theorem inferFields_singleton_eq_ok {rules : Rules} {overrides : List Override} {path : Path}
    {depth : Nat} {taken names after : Registry} {key : String} {value : Node}
    {fields : List Field} {models : List Model}
    (ok : (inferFields rules overrides path depth taken names [(key, value)]).result =
      .ok (fields, models, after)) :
    ∃ field, fields = [field] ∧ field.key = key := by
  obtain ⟨inferred, inner, middle, field, others, later, found, completed, continued, rfl, rfl⟩ :=
    inferFields_cons_eq_ok ok
  cases continued
  exact ⟨field, rfl, (completeField_eq_ok completed).2.1⟩

theorem checks_of_infer {config : Config} {overrides : List Override}
    {rootName converterImport : String} {root : Node} {file : ModelFile}
    (ok : (infer config overrides rootName converterImport root).result = .ok file) :
    config.checkDefaults = .ok () ∧ checkKeys overrides = .ok () := by
  unfold infer inferModels at ok
  obtain ⟨models, ok, -⟩ := Traced.result_bind_eq_ok.mp ok
  obtain ⟨_, defaults, ok⟩ := Traced.result_bind_eq_ok.mp ok
  obtain ⟨_, hashable, -⟩ := Traced.result_bind_eq_ok.mp ok
  exact ⟨eq_ok_of_mapError defaults, hashable⟩

/-- The fields of the root and the classes found in them make the model file. -/
theorem infer_of_inferFields {config : Config} {overrides : List Override} {limit : DepthLimit}
    {rootName converterImport name : String} {members : List (String × Node)}
    {fields : List Field} {models : List Model} {opened after : Registry}
    (checked : config.checkDefaults = .ok ()) (hashable : checkKeys overrides = .ok ())
    (limited : DepthLimit.ofConfigured config.maxDepth = .ok limit)
    (within : limit.isExceededBy 0 = false)
    (named : Registry.empty.unique (classBase .root rootName) = (name, opened))
    (walked : (inferFields ⟨config, limit⟩ overrides .root 0 Registry.empty opened members).result =
      .ok (fields, models, after)) :
    (infer config overrides rootName converterImport (.object members)).result =
      .ok ⟨rootName, converterImport, ⟨name, rootName, fields⟩ :: models⟩ := by
  have checks : (config.checkDefaults.mapError Failure.badOptions) = .ok () := by
    rw [checked]
    rfl
  have limitRead : (DepthLimit.ofConfigured config.maxDepth).mapError Failure.refused =
      .ok limit := by
    rw [limited]
    rfl
  have openRoot : (openModel ⟨config, limit⟩ .root rootName .root 0 Registry.empty).result =
      .ok (name, opened) := by
    simp only [openModel, Rules.checkDepth, DepthLimit.check, within, named]
    rfl
  unfold infer inferModels
  simp only [Traced.result_bind, Traced.result_ofExcept, checks, hashable, limitRead, openRoot,
    walked, Except.bind]
  rfl

/-- A member that is added at the end of the root leaves all fields and classes as they were: the
root class gets one more field behind its own, and any new classes come after all the others. -/
theorem infer_appended_member {config : Config} {overrides : List Override}
    {rootName converterImport : String} {members : List (String × Node)} {key : String}
    {value : Node} {larger : ModelFile}
    (ok : (infer config overrides rootName converterImport
      (.object (members ++ [(key, value)]))).result = .ok larger) :
    ∃ (root : Model) (models later : List Model) (field : Field),
      (infer config overrides rootName converterImport (.object members)).result =
          .ok ⟨rootName, converterImport, root :: models⟩ ∧
        larger = ⟨rootName, converterImport,
          { root with fields := root.fields ++ [field] } :: (models ++ later)⟩ ∧
        field.key = key := by
  obtain ⟨checked, hashable⟩ := checks_of_infer ok
  obtain ⟨limit, _, name, opened, fields, models, after, same, limited, within, named, walked,
    rfl⟩ := infer_eq_ok ok
  cases same
  obtain ⟨own, inner, middle, next, others, later, first, last, rfl, rfl⟩ :=
    inferFields_append_eq_ok walked
  obtain ⟨field, rfl, keyed⟩ := inferFields_singleton_eq_ok last
  exact ⟨⟨name, rootName, own⟩, inner, later, field,
    infer_of_inferFields checked hashable limited within named first, rfl, keyed⟩

def growingMembers : List (String × Node) :=
  [("user-id", .integer 7), ("items", .array [.null, .object [("id", .integer 1)]])]

/-- Its key asks for a field name that is taken, and an object in it for a class name. -/
def lateMember : String × Node := ("userId", .object [("item", .object [("id", .null)])])

def grownFile : ModelFile where
  rootName := "item"
  converterImport := "converter.dart"
  models :=
    [⟨"Item", "item",
        [⟨"userId", "user-id", .scalar .integer true, some "0"⟩,
          ⟨"items", "items", .listOf (.model "Item2" true) true, some "const []"⟩,
          ⟨"userId2", "userId", .model "UserId" true, none⟩]⟩,
      ⟨"Item2", "item", [⟨"id", "id", .scalar .integer true, some "0"⟩]⟩,
      ⟨"UserId", "userId", [⟨"item", "item", .model "Item3" true, none⟩]⟩,
      ⟨"Item3", "item", [⟨"id", "id", .untyped false, none⟩]⟩]

theorem infer_appended_lateMember :
    (infer orderConfig [] "item" "converter.dart" (.object (growingMembers ++ [lateMember]))).result =
        .ok grownFile ∧
      ∃ (root : Model) (models later : List Model) (field : Field),
        (infer orderConfig [] "item" "converter.dart" (.object growingMembers)).result =
            .ok ⟨"item", "converter.dart", root :: models⟩ ∧
          grownFile = ⟨"item", "converter.dart",
            { root with fields := root.fields ++ [field] } :: (models ++ later)⟩ ∧
          field.key = "userId" := by
  have grown : (infer orderConfig [] "item" "converter.dart"
      (.object (growingMembers ++ [lateMember]))).result = .ok grownFile := rfl
  exact ⟨grown, infer_appended_member grown⟩

end DartModels.Schema
