import Mathlib.Logic.ExistsUnique
import Mathlib.Logic.Relation
import DartModels.Proofs.Schema.ClassNames

/-
The references between the classes of a model file form a tree that follows their order.
-/

namespace DartModels.Schema

open DartModels.Document
open DartModels.Name
open DartModels.Options

/-- The class names in a type, at any layer of it. -/
def TypeRef.references : TypeRef → List String
  | .untyped _ => []
  | .scalar _ _ => []
  | .model name _ => [name]
  | .list _ => []
  | .listOf element _ => element.references

def Field.references (field : Field) : List String := field.type.references

def Model.references (model : Model) : List String := model.fields.flatMap Field.references

/-- The class at the index has the name. -/
def NamedAt (models : List Model) (index : Nat) (name : String) : Prop :=
  (models.map Model.name)[index]? = some name

/-- A field, by the index of its class and its own among the fields, has the name in its type. -/
def RefersAt (models : List Model) (spot : Nat × Nat) (name : String) : Prop :=
  ∃ model, models[spot.1]? = some model ∧
    ∃ field, model.fields[spot.2]? = some field ∧ name ∈ field.references

/-- A field of the class at one index refers to the class at the other. -/
def LeadsTo (models : List Model) (parent child : Nat) : Prop :=
  ∃ column name, RefersAt models (parent, column) name ∧ NamedAt models child name

/-- Each reference leads to one class, and each class but the first has one reference to it. -/
structure ReferenceTree (models : List Model) : Prop where
  resolved : ∀ spot name, RefersAt models spot name → ∃! index, NamedAt models index name
  referred : ∀ index name, 0 < index → NamedAt models index name →
    ∃! spot, RefersAt models spot name
  earlier : ∀ spot index name, RefersAt models spot name → NamedAt models index name →
    spot.1 < index
  root : ∀ spot name, NamedAt models 0 name → ¬RefersAt models spot name

namespace ReferenceTree

variable {models : List Model}

theorem lt_of_leadsTo (tree : ReferenceTree models) {parent child : Nat}
    (step : LeadsTo models parent child) : parent < child := by
  obtain ⟨column, name, refers, named⟩ := step
  exact tree.earlier (parent, column) child name refers named

theorem lt_of_transGen (tree : ReferenceTree models) {first last : Nat}
    (chain : Relation.TransGen (LeadsTo models) first last) : first < last := by
  induction chain with
  | single step => exact tree.lt_of_leadsTo step
  | tail _ step ih => exact Nat.lt_trans ih (tree.lt_of_leadsTo step)

/-- No class can be reached from itself. -/
theorem acyclic (tree : ReferenceTree models) (index : Nat) :
    ¬Relation.TransGen (LeadsTo models) index index := by
  intro cycle
  exact Nat.lt_irrefl index (tree.lt_of_transGen cycle)

/-- Every class can be reached from the first one. -/
theorem connected (tree : ReferenceTree models) (index : Nat) (inside : index < models.length) :
    Relation.ReflTransGen (LeadsTo models) 0 index := by
  induction index using Nat.strongRecOn with
  | ind index ih =>
      rcases Nat.eq_zero_or_pos index with rfl | later
      · exact .refl
      · have named : NamedAt models index models[index].name := by
          simp [NamedAt, inside]
        obtain ⟨spot, refers, -⟩ := tree.referred index _ later named
        have before := tree.earlier spot index _ refers named
        have reached := ih spot.1 before (Nat.lt_trans before inside)
        exact .tail reached ⟨spot.2, _, refers, named⟩

end ReferenceTree

/-- Each class refers only to classes after it. -/
def Downward : List Model → Prop
  | [] => True
  | model :: rest => model.references ⊆ rest.map Model.name ∧ Downward rest

theorem Downward.append {models later : List Model} (first : Downward models)
    (second : Downward later) : Downward (models ++ later) := by
  induction models with
  | nil => exact second
  | cons model rest ih =>
      obtain ⟨inside, others⟩ := first
      refine ⟨?_, ih others⟩
      intro name refers
      obtain ⟨target, member, named⟩ := List.mem_map.mp (inside refers)
      exact List.mem_map.mpr ⟨target, List.mem_append_left later member, named⟩

theorem Downward.forward {models : List Model} (downward : Downward models) {index : Nat}
    {model : Model} (found : models[index]? = some model) {name : String}
    (refers : name ∈ model.references) : ∃ later, index < later ∧ NamedAt models later name := by
  induction models generalizing index with
  | nil => cases found
  | cons first rest ih =>
      obtain ⟨inside, others⟩ := downward
      cases index with
      | zero =>
          cases found
          obtain ⟨place, named⟩ := List.mem_iff_getElem?.mp (inside refers)
          exact ⟨place + 1, Nat.succ_pos place, named⟩
      | succ index =>
          obtain ⟨later, after, named⟩ := ih others found
          exact ⟨later + 1, Nat.succ_lt_succ after, named⟩

/-- A part of a list without repetition was put into it at one index. -/
theorem index_eq_of_nodup_flatMap {Item Part : Type} {items : List Item}
    {parts : Item → List Part} (distinct : (items.flatMap parts).Nodup) {first second : Nat}
    {one other : Item} (firstAt : items[first]? = some one)
    (secondAt : items[second]? = some other) {part : Part} (inOne : part ∈ parts one)
    (inOther : part ∈ parts other) : first = second := by
  obtain ⟨-, apart⟩ := List.pairwise_flatMap.mp distinct
  obtain ⟨firstInside, rfl⟩ := List.getElem?_eq_some_iff.mp firstAt
  obtain ⟨secondInside, rfl⟩ := List.getElem?_eq_some_iff.mp secondAt
  rw [List.pairwise_iff_getElem] at apart
  rcases Nat.lt_trichotomy first second with before | same | after
  · exact absurd rfl (apart _ _ firstInside secondInside before part inOne part inOther)
  · exact same
  · exact absurd rfl (apart _ _ secondInside firstInside after part inOther part inOne)

theorem Model.mem_references {model : Model} {column : Nat} {field : Field} {name : String}
    (found : model.fields[column]? = some field) (refers : name ∈ field.references) :
    name ∈ model.references :=
  List.mem_flatMap.mpr ⟨field, List.mem_of_getElem? found, refers⟩

theorem exists_refersAt {models : List Model} {name : String}
    (refers : name ∈ models.flatMap Model.references) : ∃ spot, RefersAt models spot name := by
  obtain ⟨model, inFile, refers⟩ := List.mem_flatMap.mp refers
  obtain ⟨field, inModel, refers⟩ := List.mem_flatMap.mp refers
  obtain ⟨row, modelAt⟩ := List.mem_iff_getElem?.mp inFile
  obtain ⟨column, fieldAt⟩ := List.mem_iff_getElem?.mp inModel
  exact ⟨(row, column), model, modelAt, field, fieldAt, refers⟩

/-- Without repeated references, a name is referred to from one spot. -/
theorem RefersAt.spot_eq {models : List Model} {spot other : Nat × Nat} {name : String}
    (distinct : (models.flatMap Model.references).Nodup) (refers : RefersAt models spot name)
    (also : RefersAt models other name) : other = spot := by
  obtain ⟨model, modelAt, field, fieldAt, inField⟩ := refers
  obtain ⟨second, secondAt, twin, twinAt, inTwin⟩ := also
  have row : other.1 = spot.1 :=
    index_eq_of_nodup_flatMap distinct secondAt modelAt (Model.mem_references twinAt inTwin)
      (Model.mem_references fieldAt inField)
  rw [row, modelAt] at secondAt
  cases secondAt
  have own := (List.pairwise_flatMap.mp distinct).1 model (List.mem_of_getElem? modelAt)
  have column : other.2 = spot.2 := index_eq_of_nodup_flatMap own twinAt fieldAt inTwin inField
  exact Prod.ext row column

theorem NamedAt.index_eq {models : List Model} {index other : Nat} {name : String}
    (distinct : (models.map Model.name).Nodup) (named : NamedAt models index name)
    (also : NamedAt models other name) : other = index := by
  obtain ⟨inside, -⟩ := List.getElem?_eq_some_iff.mp also
  exact (List.getElem?_inj inside distinct).mp (also.trans named.symm)

/-- The models are referred to once each, from one of them before or from the given names. -/
structure Rooted (references : List String) (models : List Model) : Prop where
  covered : (references ++ models.flatMap Model.references).Perm (models.map Model.name)
  downward : Downward models

namespace Rooted

theorem none : Rooted [] [] := ⟨.nil, trivial⟩

theorem append {references others : List String} {models later : List Model}
    (first : Rooted references models) (second : Rooted others later) :
    Rooted (references ++ others) (models ++ later) where
  covered := by
    rw [List.flatMap_append, List.map_append, List.append_assoc]
    have exchanged := List.perm_append_comm_assoc others (models.flatMap Model.references)
      (later.flatMap Model.references)
    apply (exchanged.append_left references).trans
    rw [← List.append_assoc]
    exact first.covered.append second.covered
  downward := first.downward.append second.downward

/-- An object's class takes over the references of its fields and is referred to instead. -/
theorem opened {name origin : String} {fields : List Field} {models : List Model}
    (inside : Rooted (fields.flatMap Field.references) models) :
    Rooted [name] (⟨name, origin, fields⟩ :: models) where
  covered := inside.covered.cons name
  downward := ⟨fun _ refers => inside.covered.subset (List.mem_append_left _ refers),
    inside.downward⟩

/-- Under distinct names, models that only the first one's name leads into form a tree. -/
theorem tree {first : Model} {rest : List Model}
    (distinct : ((first :: rest).map Model.name).Nodup)
    (rooted : Rooted [first.name] (first :: rest)) : ReferenceTree (first :: rest) := by
  have covered := rooted.covered.cons_inv
  have once := covered.nodup_iff.mpr (List.nodup_cons.mp distinct).2
  have forward : ∀ spot name, RefersAt (first :: rest) spot name →
      ∃ index, spot.1 < index ∧ NamedAt (first :: rest) index name := by
    intro spot name ⟨model, modelAt, field, fieldAt, refers⟩
    exact rooted.downward.forward modelAt (Model.mem_references fieldAt refers)
  have earlier : ∀ spot index name, RefersAt (first :: rest) spot name →
      NamedAt (first :: rest) index name → spot.1 < index := by
    intro spot index name refers named
    obtain ⟨later, after, also⟩ := forward spot name refers
    rwa [also.index_eq distinct named]
  constructor
  case resolved =>
    intro spot name refers
    obtain ⟨index, -, named⟩ := forward spot name refers
    exact ⟨index, named, fun other also => named.index_eq distinct also⟩
  case referred =>
    intro index name later named
    obtain ⟨before, rfl⟩ := Nat.exists_eq_succ_of_ne_zero (Nat.pos_iff_ne_zero.mp later)
    have member : name ∈ rest.map Model.name := List.mem_of_getElem? named
    obtain ⟨spot, refers⟩ := exists_refersAt (covered.mem_iff.mpr member)
    exact ⟨spot, refers, fun other also => refers.spot_eq once also⟩
  case earlier => exact earlier
  case root =>
    intro spot name named refers
    exact Nat.not_lt_zero spot.1 (earlier spot 0 name refers named)

end Rooted

/-- A mark of a type as nullable leaves its references as they are. -/
theorem references_marked (type : TypeRef) (marked : Bool) :
    TypeRef.references (if marked then type.asNullable else type) = type.references := by
  cases marked <;> cases type <;> rfl

variable {rules : Rules}

mutual

theorem TypeWalk.rooted {names after : Registry} {place : Place} {key : String} {depth : Nat}
    {models : List Model} {node : Node} {inferred : TypeRef} :
    TypeWalk rules place key depth names node inferred models after →
      Rooted inferred.references models
  | .null | .boolean _ | .integer _ | .real _ | .text _ | .unknown => .none
  | .array _ inside => by
      rw [listType, TypeRef.references, references_marked]
      exact inside.rooted
  | .object _ _ inside => .opened inside.rooted

theorem ElementWalk.rooted {names after : Registry} {key : String} {depth : Nat}
    {models : List Model} {items : List Node} {element : TypeRef} :
    ElementWalk rules key depth names items element models after →
      Rooted element.references models
  | .none => .none
  | .skip found => found.rooted
  | .first _ found => found.rooted

theorem FieldsWalk.rooted {overrides : List Override} {depth : Nat}
    {taken names after : Registry} {members : List (String × Node)} {fields : List Field}
    {models : List Model} :
    FieldsWalk rules overrides depth taken names members fields models after →
      Rooted (fields.flatMap Field.references) models
  | .none => .none
  | .member _ found completed others => by
      obtain ⟨-, -, marked⟩ := completeField_eq_ok completed
      rw [List.flatMap_cons, Field.references, marked, references_marked]
      exact found.rooted.append others.rooted

end

/-- The references between inferred classes form a tree below the first one. -/
theorem infer_referenceTree {config : Config} {overrides : List Override}
    {rootName converterImport : String} {root : Node} {file : ModelFile}
    (inferred : (infer config overrides rootName converterImport root).result = .ok file) :
    ReferenceTree file.models ∧
      (∀ index, ¬Relation.TransGen (LeadsTo file.models) index index) ∧
      ∀ index < file.models.length, Relation.ReflTransGen (LeadsTo file.models) 0 index := by
  have walk := FileWalk.of_infer inferred
  have tree : ReferenceTree file.models := by
    have distinct := walk.nodup_names
    cases walk with
    | root limited within named inside =>
        exact Rooted.tree distinct (.opened inside.rooted)
  exact ⟨tree, tree.acyclic, tree.connected⟩

theorem infer_referenceTree_orderSample :
    (infer orderConfig orderOverrides "item" "converter.dart" orderSample).result =
        .ok orderFile ∧
      ReferenceTree orderFile.models ∧
      (∀ index, ¬Relation.TransGen (LeadsTo orderFile.models) index index) ∧
      ∀ index < orderFile.models.length,
        Relation.ReflTransGen (LeadsTo orderFile.models) 0 index :=
  ⟨infer_orderSample, infer_referenceTree infer_orderSample⟩

end DartModels.Schema
