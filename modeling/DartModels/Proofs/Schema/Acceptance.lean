import DartModels.Proofs.Document.Skeleton
import DartModels.Proofs.Schema.ClassNames

/-
The models that are inferred from a sample accept it.
-/

namespace DartModels.Schema

open DartModels.Document
open DartModels.Name
open DartModels.Options

/-- A scalar is accepted by an untyped field and by one of its kind. -/
def acceptsScalar (kind : Scalar) : TypeRef → Bool
  | .untyped _ => true
  | .scalar own _ => own == kind
  | _ => false

/-- A value of an unknown kind is accepted by an untyped field only. -/
def acceptsUnknown : TypeRef → Bool
  | .untyped _ => true
  | _ => false

mutual

/-- Whether a value may stand where the type is asked for: classes are looked up by name, and a
list without an element type takes any array. -/
def accepts (models : List Model) (type : TypeRef) : Node → Bool
  | .null => type.acceptsNull
  | .boolean _ => acceptsScalar .boolean type
  | .integer _ => acceptsScalar .integer type
  | .real _ => acceptsScalar .real type
  | .text _ => acceptsScalar .string type
  | .unknown => acceptsUnknown type
  | .array items =>
      match type with
      | .untyped _ => true
      | .list _ => true
      | .listOf element _ => acceptsItems models element items
      | _ => false
  | .object members =>
      match type with
      | .untyped _ => true
      | .model name _ =>
          match models.find? fun model => model.name == name with
          | some model => acceptsMembers models model.fields members
          | none => false
      | _ => false

def acceptsItems (models : List Model) (element : TypeRef) : List Node → Bool
  | [] => true
  | item :: rest => accepts models element item && acceptsItems models element rest

/-- The keys of an object are those of the fields, in their order. -/
def acceptsMembers (models : List Model) (fields : List Field) : List (String × Node) → Bool
  | [] => fields.isEmpty
  | (key, value) :: rest =>
      match fields with
      | [] => false
      | field :: others =>
          field.key == key && accepts models field.type value && acceptsMembers models others rest

end

theorem acceptsItems_eq_true {models : List Model} {element : TypeRef} {items : List Node}
    (each : ∀ item ∈ items, accepts models element item = true) :
    acceptsItems models element items = true := by
  induction items with
  | nil => rfl
  | cons item rest ih =>
      rw [acceptsItems, each item List.mem_cons_self,
        ih fun other member => each other (List.mem_cons_of_mem _ member)]
      rfl

theorem accepts_untyped (models : List Model) (nullable : Bool) (node : Node) :
    accepts models (.untyped nullable) node = true := by
  cases node <;> rfl

/-- The mark for null takes nothing away. -/
theorem accepts_marked {models : List Model} {type : TypeRef} {node : Node} {marked : Bool}
    (accepted : accepts models type node = true) :
    accepts models (if marked then type.asNullable else type) node = true := by
  cases marked with
  | false => exact accepted
  | true =>
      cases node with
      | null => exact acceptsNull_asNullable type
      | _ => cases type <;> exact accepted

/-- A field accepts what the type inferred for it accepts. -/
theorem accepts_completed {config : Config} {override : Option Override} {name key : String}
    {inferred : TypeRef} {field : Field} {models : List Model} {node : Node}
    (completed : completeField config override name key inferred = .ok field)
    (accepted : accepts models inferred node = true) :
    accepts models field.type node = true := by
  obtain ⟨-, -, type⟩ := completeField_eq_ok completed
  rw [type]
  exact accepts_marked accepted

/-- A class accepts an object whose members its fields accept. -/
theorem accepts_model {models : List Model} {model : Model} {nullable : Bool}
    {members : List (String × Node)}
    (found : (models.find? fun other => other.name == model.name) = some model)
    (accepted : acceptsMembers models model.fields members = true) :
    accepts models (.model model.name nullable) (.object members) = true := by
  simp only [accepts, found]
  exact accepted

variable {rules : Rules} {file : List Model}

mutual

/-- A type accepts every value whose skeleton is that of the value it was inferred from. -/
theorem TypeWalk.accepts {names after : Registry} {place : Place} {key : String} {depth : Nat}
    {models : List Model} {node sample : Node} {inferred : TypeRef}
    (distinct : (file.map Model.name).Nodup) (included : ∀ model ∈ models, model ∈ file)
    (same : sample.skeleton = node.skeleton) (homogeneous : sample.Homogeneous) :
    TypeWalk rules place key depth names node inferred models after →
      accepts file inferred sample = true
  | .null | .unknown => accepts_untyped file false sample
  | .boolean _ | .integer _ | .real _ | .text _ => by
      cases sample with
      | array _ | object _ => cases same
      | _ => first | rfl | cases same
  | .array _ inside => by
      cases sample with
      | array items =>
          obtain ⟨first, nulls⟩ := Skeleton.array.inj same
          obtain ⟨uniform, each⟩ := Node.homogeneous_array.mp homogeneous
          apply acceptsItems_eq_true
          intro item member
          cases empty : item.isNull with
          | true =>
              obtain rfl := Node.eq_null_of_isNull empty
              have marked := nulls.symm.trans (List.any_eq_true.mpr ⟨.null, member, rfl⟩)
              rw [marked]
              exact acceptsNull_asNullable _
          | false =>
              have shape := Node.firstSkeleton_of_mem uniform member empty
              exact accepts_marked (inside.accepts distinct included (first.symm.trans shape)
                (each item member))
      | _ => cases same
  | .object _ _ inside => by
      cases sample with
      | object members =>
          obtain ⟨itself, others⟩ := List.forall_mem_cons.mp included
          exact accepts_model (find?_name_eq_some distinct itself)
            (inside.accepts distinct others (Skeleton.object.inj same)
              (Node.homogeneous_object.mp homogeneous))
      | _ => cases same

theorem ElementWalk.accepts {names after : Registry} {key : String} {depth : Nat}
    {models : List Model} {items : List Node} {sample : Node} {element : TypeRef}
    (distinct : (file.map Model.name).Nodup) (included : ∀ model ∈ models, model ∈ file)
    (same : Node.firstSkeleton items = some sample.skeleton) (homogeneous : sample.Homogeneous) :
    ElementWalk rules key depth names items element models after →
      accepts file element sample = true
  | .none => by cases same
  | .skip found => by
      rw [Node.firstSkeleton] at same
      exact found.accepts distinct included same homogeneous
  | .first present found => by
      rw [Node.firstSkeleton_cons_of_present present] at same
      exact found.accepts distinct included (Option.some.inj same).symm homogeneous

theorem FieldsWalk.accepts {overrides : List Override} {depth : Nat}
    {taken names after : Registry} {members sample : List (String × Node)} {fields : List Field}
    {models : List Model}
    (distinct : (file.map Model.name).Nodup) (included : ∀ model ∈ models, model ∈ file)
    (same : Node.memberSkeletons sample = Node.memberSkeletons members)
    (homogeneous : ∀ member ∈ sample, member.2.Homogeneous) :
    FieldsWalk rules overrides depth taken names members fields models after →
      acceptsMembers file fields sample = true
  | .none => by
      cases sample with
      | nil => rfl
      | cons member rest => cases same
  | .member _ found completed others => by
      obtain ⟨-, key, -⟩ := completeField_eq_ok completed
      obtain ⟨first, later⟩ := List.forall_mem_append.mp included
      cases sample with
      | nil => cases same
      | cons member rest =>
          obtain ⟨own, tail⟩ := List.cons.inj same
          obtain ⟨name, value⟩ := Prod.mk.inj own
          obtain ⟨itself, remaining⟩ := List.forall_mem_cons.mp homogeneous
          have accepted := accepts_completed completed (found.accepts distinct first value itself)
          have continued := others.accepts distinct later tail remaining
          simp only [acceptsMembers, key, name, accepted, continued, beq_self_eq_true,
            Bool.and_self]

end

/-- The root model accepts the sample that it was inferred from, if its arrays are uniform. -/
theorem infer_accepts_sample {config : Config} {overrides : List Override}
    {rootName converterImport : String} {root : Node} {file : ModelFile}
    (homogeneous : root.Homogeneous)
    (inferred : (infer config overrides rootName converterImport root).result = .ok file) :
    ∃ model, file.models[0]? = some model ∧
      accepts file.models (.model model.name false) root = true := by
  have walk := FileWalk.of_infer inferred
  have distinct := walk.nodup_names
  cases walk with
  | @root limit members name fields models opened after limited within named inside =>
      refine ⟨⟨name, rootName, fields⟩, rfl, ?_⟩
      apply accepts_model (find?_name_eq_some distinct List.mem_cons_self)
      exact inside.accepts distinct (fun _ => List.mem_cons_of_mem _) rfl
        (Node.homogeneous_object.mp homogeneous)

theorem homogeneous_orderSample : orderSample.Homogeneous := by
  have null : Node.null.Homogeneous := fun _ inside => nomatch inside
  have integer (value : Int) : (Node.integer value).Homogeneous := fun _ inside => nomatch inside
  have text (value : String) : (Node.text value).Homogeneous := fun _ inside => nomatch inside
  have boolean (value : Bool) : (Node.boolean value).Homogeneous := fun _ inside => nomatch inside
  simp [orderSample, Node.homogeneous_object, Node.homogeneous_array, null, integer, text, boolean,
    Node.Uniform, Node.isNull, Node.skeleton, Node.firstSkeleton, Node.memberSkeletons]

/-- The sample with two objects among the elements of a list. -/
theorem infer_accepts_orderSample :
    orderSample.Homogeneous ∧
      (infer orderConfig orderOverrides "item" "converter.dart" orderSample).result =
        .ok orderFile ∧
      ∃ model, orderFile.models[0]? = some model ∧
        accepts orderFile.models (.model model.name false) orderSample = true :=
  ⟨homogeneous_orderSample, infer_orderSample,
    infer_accepts_sample homogeneous_orderSample infer_orderSample⟩

end DartModels.Schema
