import DartModels.Proofs.Schema.FieldContent

/-
The form of inferred types: every list knows its elements, and no untyped layer is marked nullable.
-/

namespace DartModels.Schema

open DartModels.Document
open DartModels.Name
open DartModels.Options

namespace TypeRef

/-- The type with the types of its elements, from the outermost layer to the innermost. -/
def layers : TypeRef → List TypeRef
  | .listOf element nullable => .listOf element nullable :: element.layers
  | type => [type]

/-- Lists without an element type and marked untyped layers are irregular. -/
def isRegular : TypeRef → Bool
  | .untyped nullable => !nullable
  | .list _ => false
  | .listOf element _ => element.isRegular
  | _ => true

theorem isRegular_asNullable (type : TypeRef) : type.asNullable.isRegular = type.isRegular := by
  cases type <;> rfl

theorem isRegular_marked (type : TypeRef) (marked : Bool) :
    TypeRef.isRegular (if marked then type.asNullable else type) = type.isRegular := by
  cases marked with
  | false => rfl
  | true => exact type.isRegular_asNullable

theorem isRegular_of_mem_layers {type layer : TypeRef} (regular : type.isRegular = true)
    (member : layer ∈ type.layers) : layer.isRegular = true := by
  induction type with
  | listOf element nullable ih =>
      rcases List.mem_cons.mp member with rfl | inner
      · exact regular
      · exact ih regular inner
  | _ =>
      obtain rfl := List.mem_singleton.mp member
      exact regular

/-- A layer names no classes besides those of the whole type. -/
theorem references_subset_of_mem_layers {type layer : TypeRef} (member : layer ∈ type.layers) :
    layer.references ⊆ type.references := by
  induction type with
  | listOf element nullable ih =>
      rcases List.mem_cons.mp member with rfl | inner
      · exact List.Subset.refl _
      · exact ih inner
  | _ =>
      obtain rfl := List.mem_singleton.mp member
      exact List.Subset.refl _

end TypeRef

/-- The layers of all types in a file. -/
def ModelFile.layers (file : ModelFile) : List TypeRef :=
  file.models.flatMap fun model => model.fields.flatMap fun field => field.type.layers

/-- The file is inferred from some document under some options. -/
def ModelFile.IsInferred (file : ModelFile) : Prop :=
  ∃ config overrides rootName converterImport root,
    (infer config overrides rootName converterImport root).result = .ok file

def Model.IsRegular (model : Model) : Prop :=
  ∀ field ∈ model.fields, field.type.isRegular = true

theorem isRegular_listType {items : List Node} {element : TypeRef}
    (regular : element.isRegular = true) : (listType items element).isRegular = true := by
  rw [listType, TypeRef.isRegular, TypeRef.isRegular_marked, regular]

theorem isRegular_of_completeField {config : Config} {override : Option Override}
    {name key : String} {inferred : TypeRef} {field : Field}
    (completed : completeField config override name key inferred = .ok field)
    (regular : inferred.isRegular = true) : field.type.isRegular = true := by
  obtain ⟨-, -, type⟩ := completeField_eq_ok completed
  rw [type, TypeRef.isRegular_marked, regular]

variable {rules : Rules}

mutual

theorem TypeWalk.regular {names after : Registry} {place : Place} {key : String} {depth : Nat}
    {models : List Model} {node : Node} {inferred : TypeRef} :
    TypeWalk rules place key depth names node inferred models after →
      inferred.isRegular = true ∧ ∀ model ∈ models, model.IsRegular
  | .null | .boolean _ | .integer _ | .real _ | .text _ | .unknown =>
      ⟨rfl, List.forall_mem_nil _⟩
  | .array _ inside => ⟨isRegular_listType inside.regular.1, inside.regular.2⟩
  | .object _ _ inside => ⟨rfl, List.forall_mem_cons.mpr inside.regular⟩

theorem ElementWalk.regular {names after : Registry} {key : String} {depth : Nat}
    {models : List Model} {items : List Node} {element : TypeRef} :
    ElementWalk rules key depth names items element models after →
      element.isRegular = true ∧ ∀ model ∈ models, model.IsRegular
  | .none => ⟨rfl, List.forall_mem_nil _⟩
  | .skip found => found.regular
  | .first _ found => found.regular

theorem FieldsWalk.regular {overrides : List Override} {depth : Nat}
    {taken names after : Registry} {members : List (String × Node)} {fields : List Field}
    {models : List Model} :
    FieldsWalk rules overrides depth taken names members fields models after →
      (∀ field ∈ fields, field.type.isRegular = true) ∧ ∀ model ∈ models, model.IsRegular
  | .none => ⟨List.forall_mem_nil _, List.forall_mem_nil _⟩
  | .member _ found completed others =>
      ⟨List.forall_mem_cons.mpr
          ⟨isRegular_of_completeField completed found.regular.1, others.regular.1⟩,
        List.forall_mem_append.mpr ⟨found.regular.2, others.regular.2⟩⟩

end

theorem FileWalk.regular {config : Config} {overrides : List Override}
    {rootName converterImport : String} {root : Node} {file : ModelFile} :
    FileWalk config overrides rootName converterImport root file →
      ∀ model ∈ file.models, model.IsRegular
  | .root _ _ _ inside => List.forall_mem_cons.mpr inside.regular

/-- Each layer in an inferred file is regular and names classes legally. -/
theorem ModelFile.IsInferred.wellFormed_layer {file : ModelFile} (inferred : file.IsInferred)
    {layer : TypeRef} (member : layer ∈ file.layers) :
    layer.isRegular = true ∧ ∀ name ∈ layer.references, Grammar.className.Legal name := by
  obtain ⟨config, overrides, rootName, converterImport, root, inferred⟩ := inferred
  have walk := FileWalk.of_infer inferred
  obtain ⟨model, inFile, member⟩ := List.mem_flatMap.mp member
  obtain ⟨field, inModel, member⟩ := List.mem_flatMap.mp member
  refine ⟨TypeRef.isRegular_of_mem_layers (walk.regular model inFile field inModel) member, ?_⟩
  intro name refers
  have inField : name ∈ field.references := TypeRef.references_subset_of_mem_layers member refers
  exact (walk.composed model inFile).references name
    (List.mem_flatMap.mpr ⟨field, inModel, inField⟩)

/-- A class of an inferred file has a legal name. -/
theorem ModelFile.IsInferred.legal_className {file : ModelFile} (inferred : file.IsInferred)
    {model : Model} (member : model ∈ file.models) : Grammar.className.Legal model.name := by
  obtain ⟨config, overrides, rootName, converterImport, root, inferred⟩ := inferred
  exact ((FileWalk.of_infer inferred).composed model member).named.className

end DartModels.Schema
