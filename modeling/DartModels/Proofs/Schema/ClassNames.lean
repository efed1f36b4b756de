import DartModels.Proofs.Name.Numbering
import DartModels.Proofs.Schema.Walk

/-
The names of the models of a walk are those that its registry handed out, in the same order.
-/

namespace DartModels.Schema

open DartModels.Document
open DartModels.Name
open DartModels.Options

/-- From one registry to another, the names of the models were handed out and no others. -/
structure HandedOut (before : Registry) (models : List Model) (after : Registry) : Prop where
  issued : after.issued = (models.map Model.name).reverse ++ before.issued
  distinct : before.issued.Nodup → after.issued.Nodup

namespace HandedOut

theorem none (names : Registry) : HandedOut names [] names := ⟨rfl, id⟩

/-- One part of a walk goes on where the part before it stopped. -/
theorem append {before middle after : Registry} {models later : List Model}
    (first : HandedOut before models middle) (second : HandedOut middle later after) :
    HandedOut before (models ++ later) after where
  issued := by
    rw [second.issued, first.issued, List.map_append, List.reverse_append, List.append_assoc]
  distinct start := second.distinct (first.distinct start)

/-- The name of an object's class is handed out before those of the classes in it. -/
theorem opened {before middle after : Registry} {base name origin : String} {fields : List Field}
    {models : List Model} (named : before.unique base = (name, middle))
    (inside : HandedOut middle models after) :
    HandedOut before (⟨name, origin, fields⟩ :: models) after where
  issued := by
    rw [inside.issued, Registry.issued_of_unique named, List.map_cons, List.reverse_cons,
      List.append_assoc, List.singleton_append]
  distinct start := inside.distinct (Registry.nodup_issued_of_unique named start)

end HandedOut

variable {rules : Rules}

mutual

theorem TypeWalk.handedOut {names after : Registry} {place : Place} {key : String} {depth : Nat}
    {models : List Model} {node : Node} {inferred : TypeRef} :
    TypeWalk rules place key depth names node inferred models after →
      HandedOut names models after
  | .null | .boolean _ | .integer _ | .real _ | .text _ | .unknown => .none names
  | .array _ inside => inside.handedOut
  | .object _ named inside => .opened named inside.handedOut

theorem ElementWalk.handedOut {names after : Registry} {key : String} {depth : Nat}
    {models : List Model} {items : List Node} {element : TypeRef} :
    ElementWalk rules key depth names items element models after → HandedOut names models after
  | .none => .none names
  | .skip found => found.handedOut
  | .first _ found => found.handedOut

theorem FieldsWalk.handedOut {overrides : List Override} {depth : Nat}
    {taken names after : Registry} {members : List (String × Node)} {fields : List Field}
    {models : List Model} :
    FieldsWalk rules overrides depth taken names members fields models after →
      HandedOut names models after
  | .none => .none names
  | .member _ found _ others => found.handedOut.append others.handedOut

end

/-- No two classes of a model file share a name. -/
theorem FileWalk.nodup_names {config : Config} {overrides : List Override}
    {rootName converterImport : String} {root : Node} {file : ModelFile}
    (walk : FileWalk config overrides rootName converterImport root file) :
    (file.models.map Model.name).Nodup := by
  cases walk with
  | @root limit members name fields models opened after limited within named inside =>
      have handed : HandedOut Registry.empty (⟨name, rootName, fields⟩ :: models) after :=
        .opened named inside.handedOut
      have distinct := handed.distinct List.nodup_nil
      rw [handed.issued] at distinct
      exact (List.reverse_perm _).nodup_iff.mp (List.nodup_append.mp distinct).1

/-- Under distinct names, looking a class up by its name finds it. -/
theorem find?_name_eq_some {models : List Model} (distinct : (models.map Model.name).Nodup)
    {model : Model} (member : model ∈ models) :
    (models.find? fun other => other.name == model.name) = some model := by
  induction models with
  | nil => cases member
  | cons first rest ih =>
      obtain ⟨fresh, others⟩ := List.nodup_cons.mp distinct
      rcases List.mem_cons.mp member with rfl | later
      · simp
      · have different : first.name ≠ model.name := fun same =>
          fresh (same ▸ List.mem_map_of_mem later)
        simpa [List.find?_cons, different] using ih others later

end DartModels.Schema
