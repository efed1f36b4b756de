import Mathlib.Data.List.Forall2
import DartModels.Proofs.Options.LastOverride
import DartModels.Proofs.Schema.Walk

/-
Overrides reach the fields of the root class and nothing else.
-/

namespace DartModels.Schema

open DartModels.Document
open DartModels.Name
open DartModels.Options

/-- Fields for one key whose types differ at most in whether the whole type is nullable. -/
structure Field.SameMember (first second : Field) : Prop where
  key : first.key = second.key
  converter : first.converter? = second.converter?
  type : first.type.asNullable = second.type.asNullable

/-- The files have the same classes, up to fields of the first class for the same members. -/
def ModelFile.SameBelowRoot (first second : ModelFile) : Prop :=
  ∃ name origin fields others models,
    first.models = ⟨name, origin, fields⟩ :: models ∧
      second.models = ⟨name, origin, others⟩ :: models ∧
      List.Forall₂ Field.SameMember fields others

/-- One member has alike fields under any two overrides and any names. -/
theorem sameMember_completed {config : Config} {first second : Option Override}
    {name other key : String} {inferred : TypeRef} {field twin : Field}
    (completed : completeField config first name key inferred = .ok field)
    (also : completeField config second other key inferred = .ok twin) :
    field.SameMember twin := by
  obtain ⟨-, key, type⟩ := completeField_eq_ok completed
  obtain ⟨-, twinKey, twinType⟩ := completeField_eq_ok also
  have marked : field.type.asNullable = twin.type.asNullable := by
    rw [type, twinType, asNullable_marked, asNullable_marked]
  refine ⟨key.trans twinKey.symm, ?_, marked⟩
  rw [Field.converter?, Field.converter?, ← scalar?_asNullable, marked, scalar?_asNullable]

variable {rules : Rules}

/-- Whatever names are taken and whatever the overrides are, the members of an object lead to alike
fields, to the same classes and to the same class names after them. -/
theorem inferFields_sameMembers {first second : List Override} {path : Path} {depth : Nat}
    {members : List (String × Node)} {taken other names after last : Registry}
    {fields twins : List Field} {models others : List Model}
    (ok : (inferFields rules first path depth taken names members).result =
      .ok (fields, models, after))
    (also : (inferFields rules second path depth other names members).result =
      .ok (twins, others, last)) :
    List.Forall₂ Field.SameMember fields twins ∧ models = others ∧ after = last := by
  induction members generalizing taken other names fields twins models others with
  | nil =>
      cases ok
      cases also
      exact ⟨.nil, rfl, rfl⟩
  | cons member rest ih =>
      obtain ⟨key, value⟩ := member
      obtain ⟨inferred, inner, middle, field, fields, models, found, completed, continued, rfl,
        rfl⟩ := inferFields_cons_eq_ok ok
      obtain ⟨_, _, _, twin, twins, others, again, completion, continuation, rfl, rfl⟩ :=
        inferFields_cons_eq_ok also
      -- both runs infer the type of the member from the same class names
      cases found.symm.trans again
      obtain ⟨alike, rfl, same⟩ := ih continued continuation
      exact ⟨.cons (sameMember_completed completed completion) alike, rfl, same⟩

/-- Overrides change no more of a model file than the fields of its first class. -/
theorem sameBelowRoot_of_infer {config : Config} {first second : List Override}
    {rootName converterImport : String} {root : Node} {file other : ModelFile}
    (ok : (infer config first rootName converterImport root).result = .ok file)
    (also : (infer config second rootName converterImport root).result = .ok other) :
    file.SameBelowRoot other := by
  obtain ⟨limit, members, name, opened, fields, models, after, rfl, limited, within, named, walked,
    rfl⟩ := infer_eq_ok ok
  obtain ⟨_, _, _, _, twins, _, _, root, again, _, naming, walk, rfl⟩ := infer_eq_ok also
  cases root
  cases limited.symm.trans again
  cases named.symm.trans naming
  obtain ⟨alike, rfl, -⟩ := inferFields_sameMembers walked walk
  exact ⟨name, rootName, fields, twins, models, rfl, rfl, alike⟩

/-- Of the overrides, only those count that are found for the keys of the members. -/
theorem inferFields_eq_of_find? {first second : List Override} {path : Path} {depth : Nat}
    {taken names : Registry} {members : List (String × Node)}
    (same : ∀ key ∈ members.map Prod.fst, Override.find? key first = Override.find? key second) :
    inferFields rules first path depth taken names members =
      inferFields rules second path depth taken names members := by
  induction members generalizing taken names with
  | nil => rfl
  | cons member rest ih =>
      obtain ⟨key, value⟩ := member
      obtain ⟨own, others⟩ := List.forall_mem_cons.mp same
      simp only [inferFields, own, ih others]

/-- Keys that are texts can be looked up. -/
theorem checkKeys_of_hasTextKey {overrides : List Override}
    (keyed : ∀ override ∈ overrides, override.HasTextKey) : checkKeys overrides = .ok () := by
  have none : overrides.findSome? Override.unhashableKey? = none := by
    rw [List.findSome?_eq_none_iff]
    intro override member
    obtain ⟨key, text⟩ := keyed override member
    rw [Override.unhashableKey?, text]
    rfl
  rw [checkKeys, none]

theorem infer_eq_of_lastFor {config : Config} {first second : List Override}
    {rootName converterImport : String} {members : List (String × Node)}
    (firstKeyed : ∀ override ∈ first, override.HasTextKey)
    (secondKeyed : ∀ override ∈ second, override.HasTextKey)
    (same : ∀ key ∈ members.map Prod.fst,
      Override.lastFor key first = Override.lastFor key second) :
    infer config first rootName converterImport (.object members) =
      infer config second rootName converterImport (.object members) := by
  have found : ∀ key ∈ members.map Prod.fst,
      Override.find? key first = Override.find? key second := by
    intro key member
    rw [Override.find?_eq_lastFor, Override.find?_eq_lastFor, same key member]
  have fields (rules : Rules) (names : Registry) :
      inferFields rules first .root 0 Registry.empty names members =
        inferFields rules second .root 0 Registry.empty names members :=
    inferFields_eq_of_find? found
  simp only [infer, inferModels, checkKeys_of_hasTextKey firstKeyed,
    checkKeys_of_hasTextKey secondKeyed, fields]

/-- Overrides change the fields of the root class at most, and what is inferred depends on them only
through the last one for each key of the root; so it stays the same when overrides for different
keys change places, or when some go or come that are shadowed or for no key of the root. -/
theorem infer_override_scope {config : Config} {first second : List Override}
    {rootName converterImport : String} {members : List (String × Node)}
    (firstKeyed : ∀ override ∈ first, override.HasTextKey)
    (secondKeyed : ∀ override ∈ second, override.HasTextKey) :
    (∀ file other,
      (infer config first rootName converterImport (.object members)).result = .ok file →
      (infer config second rootName converterImport (.object members)).result = .ok other →
      file.SameBelowRoot other) ∧
    ((∀ key ∈ members.map Prod.fst,
        Override.lastFor key first = Override.lastFor key second) →
      infer config first rootName converterImport (.object members) =
        infer config second rootName converterImport (.object members)) ∧
    (Relation.EqvGen (Override.Rearranged (members.map Prod.fst)) first second →
      infer config first rootName converterImport (.object members) =
        infer config second rootName converterImport (.object members)) := by
  refine ⟨fun _ _ => sameBelowRoot_of_infer, infer_eq_of_lastFor firstKeyed secondKeyed, ?_⟩
  intro changes
  apply infer_eq_of_lastFor firstKeyed secondKeyed
  intro key member
  exact Override.lastFor_eq_of_rearranged changes member

/-- A new name, a default and no null for the list of the root, which is no key of its items. -/
def orderRenaming : List Override :=
  [⟨.text "items", some "item", .boolean false, some "const <Item2>[]"⟩]

def orderRenamed : ModelFile :=
  { orderFile with
    models :=
      ⟨"Item", "item",
        [⟨"item", "items", .listOf (.model "Item2" true) false, some "const <Item2>[]"⟩,
          ⟨"item2", "item", .model "Item3" true, none⟩,
          ⟨"userId", "user-id", .scalar .integer true, some "0"⟩,
          ⟨"userId2", "userId", .scalar .string true, some "''"⟩,
          ⟨"userId3", "userId", .scalar .boolean true, some "false"⟩]⟩ :: orderFile.models.tail }

/-- The overrides of the sample after one for a key of its items and one that they shadow. -/
def orderSurplus : List Override :=
  ⟨.text "id", some "number", .null, some "1"⟩ ::
    ⟨.text "userId", some "user", .boolean true, some "'none'"⟩ :: orderOverrides

theorem infer_override_scope_orderSample :
    (infer orderConfig orderRenaming "item" "converter.dart" orderSample).result =
        .ok orderRenamed ∧
      orderFile.SameBelowRoot orderRenamed ∧
      infer orderConfig orderOverrides "item" "converter.dart" orderSample =
        infer orderConfig orderSurplus "item" "converter.dart" orderSample := by
  have ownKeys : ∀ override ∈ orderOverrides, override.HasTextKey := by
    simp [orderOverrides, Override.HasTextKey]
  have renamingKeys : ∀ override ∈ orderRenaming, override.HasTextKey := by
    simp [orderRenaming, Override.HasTextKey]
  have surplusKeys : ∀ override ∈ orderSurplus, override.HasTextKey := by
    simp [orderSurplus, orderOverrides, Override.HasTextKey]
  have renamed : (infer orderConfig orderRenaming "item" "converter.dart" orderSample).result =
      .ok orderRenamed := rfl
  have absent : Override.Rearranged ["items", "item", "user-id", "userId", "userId"]
      ([] ++ orderSurplus) ([] ++ orderSurplus.tail) := .absent rfl (by decide)
  have shadowed : Override.Rearranged ["items", "item", "user-id", "userId", "userId"]
      ([] ++ orderSurplus.tail) ([] ++ orderOverrides) :=
    .shadowed rfl rfl List.mem_cons_self
  have changes := (Relation.EqvGen.rel _ _ absent).trans _ _ _ (.rel _ _ shadowed)
  exact ⟨renamed,
    (infer_override_scope ownKeys renamingKeys).1 _ _ infer_orderSample renamed,
    (infer_override_scope ownKeys surplusKeys).2.2 (changes.symm)⟩

end DartModels.Schema
