import DartModels.Proofs.Name.Legality
import DartModels.Proofs.Name.Words
import DartModels.Proofs.Schema.ClassNames

/-
The classes and fields of a model file have distinct legal names.
-/

namespace DartModels.Schema

open DartModels.Document
open DartModels.Name
open DartModels.Options

/-- A class and its parameters have legal names, and no two parameters share one. -/
structure Model.LegallyNamed (model : Model) : Prop where
  className : Grammar.className.Legal model.name
  fieldNames : ∀ field ∈ model.fields, Grammar.parameterName.Legal field.name
  distinct : (model.fields.map Field.name).Nodup

/-- The classes are legally named, and no two of them share a name. -/
structure ModelFile.LegallyNamed (file : ModelFile) : Prop where
  models : ∀ model ∈ file.models, model.LegallyNamed
  distinct : (file.models.map Model.name).Nodup

/-- The suffix of each place is made of letters and leads away from the disallowed names. -/
theorem suffix_apart (place : Place) :
    place.suffix.toList.all Grammar.className.continues = true ∧
      (Grammar.className.forbidden.all fun word =>
        !Grammar.className.forbidden.contains (word ++ place.suffix)) = true := by
  cases place <;> decide

/-- The base of a class name is legal, whatever the class is made from. -/
theorem legal_classBase (place : Place) (origin : String) :
    Grammar.className.Legal (classBase place origin) := by
  have spelled : Grammar.className.spells
      (if (pascal origin).isEmpty then place.fallback else pascal origin).toList = true := by
    split
    next => cases place <;> decide
    next filled =>
      rcases pascalChars_eq_nil_or_spells origin.toList with empty | spelled
      · exact absurd (by simp [pascal, empty]) filled
      · rw [pascal, String.toList_ofList]
        exact spelled
  rw [classBase, safeClassName]
  exact Grammar.legal_suffixed spelled (suffix_apart place).1 (suffix_apart place).2

/-- The base of a field name is legal, whether an override or the key gives it. -/
theorem legal_fieldBase (override : Option Override) (key : String) :
    Grammar.parameterName.Legal (fieldBase override key) :=
  Grammar.legal_identifier (if (askedName override).isEmpty then camel key else askedName override)

variable {rules : Rules}

/-- The field names of an object are legal, distinct and none of those taken before. -/
theorem FieldsWalk.legal_names {overrides : List Override} {depth : Nat}
    {taken names after : Registry} {members : List (String × Node)} {fields : List Field}
    {models : List Model}
    (walk : FieldsWalk rules overrides depth taken names members fields models after) :
    (fields.map Field.name).Nodup ∧
      ∀ field ∈ fields, Grammar.parameterName.Legal field.name ∧ field.name ∉ taken.issued := by
  induction members generalizing taken names fields models with
  | nil =>
      cases walk
      simp
  | cons pair rest ih =>
      obtain _ | ⟨named, found, completed, others⟩ := walk
      obtain ⟨distinct, each⟩ := ih others
      obtain ⟨own, -, -⟩ := completeField_eq_ok completed
      rw [Registry.issued_of_unique named] at each
      constructor
      · rw [List.map_cons, own]
        apply List.nodup_cons.mpr
        refine ⟨?_, distinct⟩
        intro again
        obtain ⟨other, member, same⟩ := List.mem_map.mp again
        exact (each other member).2 (same ▸ List.mem_cons_self)
      · intro field member
        rcases List.mem_cons.mp member with rfl | later
        · rw [own]
          exact ⟨(legal_fieldBase _ _).of_unique named, Registry.fresh_of_unique named⟩
        · obtain ⟨legal, fresh⟩ := each field later
          exact ⟨legal, fun before => fresh (List.mem_cons_of_mem _ before)⟩

/-- A class that is opened for an object is legally named. -/
theorem legallyNamed_opened {overrides : List Override} {depth : Nat}
    {names opened after : Registry} {members : List (String × Node)} {fields : List Field}
    {models : List Model} {place : Place} {base name origin : String}
    (named : names.unique (classBase place base) = (name, opened))
    (inside : FieldsWalk rules overrides depth Registry.empty opened members fields models after) :
    Model.LegallyNamed ⟨name, origin, fields⟩ where
  className := (legal_classBase place base).of_unique named
  fieldNames field member := (inside.legal_names.2 field member).1
  distinct := inside.legal_names.1

mutual

theorem TypeWalk.legallyNamed {names after : Registry} {place : Place} {key : String} {depth : Nat}
    {models : List Model} {node : Node} {inferred : TypeRef} :
    TypeWalk rules place key depth names node inferred models after →
      ∀ model ∈ models, model.LegallyNamed
  | .null | .boolean _ | .integer _ | .real _ | .text _ | .unknown => List.forall_mem_nil _
  | .array _ inside => inside.legallyNamed
  | .object _ named inside =>
      List.forall_mem_cons.mpr ⟨legallyNamed_opened named inside, inside.legallyNamed⟩

theorem ElementWalk.legallyNamed {names after : Registry} {key : String} {depth : Nat}
    {models : List Model} {items : List Node} {element : TypeRef} :
    ElementWalk rules key depth names items element models after →
      ∀ model ∈ models, model.LegallyNamed
  | .none => List.forall_mem_nil _
  | .skip found => found.legallyNamed
  | .first _ found => found.legallyNamed

theorem FieldsWalk.legallyNamed {overrides : List Override} {depth : Nat}
    {taken names after : Registry} {members : List (String × Node)} {fields : List Field}
    {models : List Model} :
    FieldsWalk rules overrides depth taken names members fields models after →
      ∀ model ∈ models, model.LegallyNamed
  | .none => List.forall_mem_nil _
  | .member _ found _ others =>
      List.forall_mem_append.mpr ⟨found.legallyNamed, others.legallyNamed⟩

end

/-- Every model file that is inferred is legally named. -/
theorem infer_legallyNamed {config : Config} {overrides : List Override}
    {rootName converterImport : String} {root : Node} {file : ModelFile}
    (inferred : (infer config overrides rootName converterImport root).result = .ok file) :
    file.LegallyNamed := by
  have walk := FileWalk.of_infer inferred
  refine ⟨?_, walk.nodup_names⟩
  cases walk with
  | root _ _ named inside =>
      exact List.forall_mem_cons.mpr ⟨legallyNamed_opened named inside, inside.legallyNamed⟩

theorem infer_legallyNamed_orderSample :
    (infer orderConfig orderOverrides "item" "converter.dart" orderSample).result =
        .ok orderFile ∧
      orderFile.LegallyNamed :=
  ⟨infer_orderSample, infer_legallyNamed infer_orderSample⟩

end DartModels.Schema
