import DartModels.Proofs.Schema.ClassNames

/-
Inferred models in outline, which the shape of the document determines without any names.
-/

namespace DartModels.Schema

open DartModels.Document
open DartModels.Name
open DartModels.Options

/-- An outline has positions for class names and leaves out whether the whole type is nullable. -/
inductive Outline where
  | untyped
  | scalar (kind : Scalar)
  | model (position : Nat)
  | list
  | listOf (element : Outline) (nullable : Bool)
  deriving DecidableEq, Repr

/-- The position of the class with the name. -/
def position (models : List Model) (name : String) : Nat := (models.map Model.name).idxOf name

def TypeRef.outline (models : List Model) : TypeRef → Outline
  | .untyped _ => .untyped
  | .scalar kind _ => .scalar kind
  | .model name _ => .model (position models name)
  | .list _ => .list
  | .listOf element _ => .listOf (element.outline models) element.isNullable

/-- The keys and the types of the fields in their order. -/
def fieldOutlines (models : List Model) (fields : List Field) : List (String × Outline) :=
  fields.map fun field => (field.key, field.type.outline models)

mutual

/-- The objects that classes are made for, each by its members and before those inside it. -/
def sites : Node → List (List (String × Node))
  | .array items => elementSites items
  | .object members => members :: memberSites members
  | _ => []

def elementSites : List Node → List (List (String × Node))
  | [] => []
  | .null :: rest => elementSites rest
  | item :: _ => sites item

def memberSites : List (String × Node) → List (List (String × Node))
  | [] => []
  | (_, value) :: rest => sites value ++ memberSites rest

end

theorem elementSites_cons_of_present {item : Node} {rest : List Node}
    (present : item.isNull = false) : elementSites (item :: rest) = sites item := by
  cases item with
  | null => cases present
  | _ => rfl

/-- Each object is followed by those inside it, in the order of its members. -/
def Contiguous (found : List (List (String × Node))) : Prop :=
  ∀ index members, found[index]? = some members →
    members :: memberSites members <+: found.drop index

theorem Contiguous.append {found later : List (List (String × Node))} (first : Contiguous found)
    (second : Contiguous later) : Contiguous (found ++ later) := by
  intro index members own
  rw [List.drop_append]
  rcases Nat.lt_or_ge index found.length with inside | beyond
  · rw [List.getElem?_append_left inside] at own
    exact (first index members own).trans (List.prefix_append _ _)
  · rw [List.getElem?_append_right beyond] at own
    rw [List.drop_eq_nil_of_le beyond, List.nil_append]
    exact second (index - found.length) members own

theorem Contiguous.object {members : List (String × Node)}
    (inside : Contiguous (memberSites members)) : Contiguous (sites (.object members)) := by
  intro index others own
  rw [sites] at own ⊢
  cases index with
  | zero =>
      cases own
      exact List.prefix_rfl
  | succ index => exact inside index others own

mutual

theorem contiguous_sites : (node : Node) → Contiguous (sites node)
  | .null | .boolean _ | .integer _ | .real _ | .text _ | .unknown => by
      intro index members own
      cases own
  | .array items => contiguous_elementSites items
  | .object members => .object (contiguous_memberSites members)

theorem contiguous_elementSites : (items : List Node) → Contiguous (elementSites items)
  | [] => by
      intro index members own
      cases own
  | item :: rest => by
      cases present : item.isNull with
      | true =>
          obtain rfl := Node.eq_null_of_isNull present
          exact contiguous_elementSites rest
      | false =>
          rw [elementSites_cons_of_present present]
          exact contiguous_sites item

theorem contiguous_memberSites : (members : List (String × Node)) →
    Contiguous (memberSites members)
  | [] => by
      intro index members own
      cases own
  | (_, value) :: rest => (contiguous_sites value).append (contiguous_memberSites rest)

end

mutual

/-- The type of a value whose first class stands at the position. -/
def nodeOutline (first : Nat) : Node → Outline
  | .null => .untyped
  | .boolean _ => .scalar .boolean
  | .integer _ => .scalar .integer
  | .real _ => .scalar .real
  | .text _ => .scalar .string
  | .unknown => .untyped
  | .array items =>
      .listOf (elementOutline first items)
        (items.any Node.isNull && elementOutline first items != .untyped)
  | .object _ => .model first

def elementOutline (first : Nat) : List Node → Outline
  | [] => .untyped
  | .null :: rest => elementOutline first rest
  | item :: _ => nodeOutline first item

end

/-- The classes of each member stand right after those of the members before it. -/
def memberOutlines (first : Nat) : List (String × Node) → List (String × Outline)
  | [] => []
  | (key, value) :: rest =>
      (key, nodeOutline first value) :: memberOutlines (first + (sites value).length) rest

/-- The classes inside an object stand right after its own. -/
def siteOutline (site : List (String × Node) × Nat) : List (String × Outline) :=
  memberOutlines (site.2 + 1) site.1

/-- The classes of a document in outline, the first one at the given position. -/
def siteOutlines (first : Nat) (found : List (List (String × Node))) :
    List (List (String × Outline)) :=
  (found.zipIdx first).map siteOutline

theorem siteOutlines_append (first : Nat) (found later : List (List (String × Node))) :
    siteOutlines first (found ++ later) =
      siteOutlines first found ++ siteOutlines (first + found.length) later := by
  rw [siteOutlines, List.zipIdx_append, List.map_append]
  rfl

theorem elementOutline_cons_of_present {first : Nat} {item : Node} {rest : List Node}
    (present : item.isNull = false) :
    elementOutline first (item :: rest) = nodeOutline first item := by
  cases item with
  | null => cases present
  | _ => rfl

theorem outline_marked (models : List Model) (type : TypeRef) (marked : Bool) :
    TypeRef.outline models (if marked then type.asNullable else type) = type.outline models := by
  cases marked <;> cases type <;> rfl

/-- A mark can be seen on every type but an untyped one. -/
theorem isNullable_marked (models : List Model) {type : TypeRef}
    (unmarked : type.isNullable = false) (marked : Bool) :
    (if marked then type.asNullable else type).isNullable =
      (marked && type.outline models != .untyped) := by
  cases marked with
  | false => simpa using unmarked
  | true => cases type <;> first | rfl | exact unmarked

/-- The models stand in the file one after another, the first one at the position. -/
def Block (file : List Model) (first : Nat) (models : List Model) : Prop :=
  models <+: file.drop first

namespace Block

variable {file models later : List Model} {first : Nat}

theorem left (block : Block file first (models ++ later)) : Block file first models :=
  (List.prefix_append models later).trans block

theorem right (block : Block file first (models ++ later)) :
    Block file (first + models.length) later := by
  obtain ⟨rest, parts⟩ := block
  refine ⟨rest, ?_⟩
  rw [← List.drop_drop, ← parts, List.append_assoc, List.drop_left]

theorem tail {model : Model} (block : Block file first (model :: models)) :
    Block file (first + 1) models :=
  @right file [model] models first block

/-- Under distinct names, the position of a block is that of its first class. -/
theorem position_eq {model : Model} (distinct : (file.map Model.name).Nodup)
    (block : Block file first (model :: models)) : position file model.name = first := by
  obtain ⟨rest, parts⟩ := block
  have found : file[first]? = some model := by
    have start := congrArg (fun list => list[0]?) parts
    simpa using start.symm
  obtain ⟨inside, own⟩ := List.getElem?_eq_some_iff.mp found
  have named : first < (file.map Model.name).length := by simpa using inside
  have index := distinct.idxOf_getElem first named
  rwa [List.getElem_map, own] at index

end Block

variable {rules : Rules} {file : List Model}

mutual

/-- A walk answers the outlines of its value if its models stand in the file as a block. -/
theorem TypeWalk.outlined {names after : Registry} {place : Place} {key : String}
    {depth first : Nat} {models : List Model} {node : Node} {inferred : TypeRef}
    (distinct : (file.map Model.name).Nodup) (block : Block file first models) :
    TypeWalk rules place key depth names node inferred models after →
      inferred.outline file = nodeOutline first node ∧
        models.map (fun model => fieldOutlines file model.fields) = siteOutlines first (sites node)
  | .null | .boolean _ | .integer _ | .real _ | .text _ | .unknown => ⟨rfl, rfl⟩
  | .array _ inside => by
      obtain ⟨type, outlines⟩ := inside.outlined distinct block
      refine ⟨?_, outlines⟩
      rw [listType, TypeRef.outline, outline_marked, isNullable_marked file inside.unmarked, type]
      rfl
  | .object _ _ inside => by
      obtain ⟨fields, outlines⟩ := inside.outlined distinct block.tail
      refine ⟨congrArg Outline.model (block.position_eq distinct), ?_⟩
      rw [List.map_cons, fields, outlines]
      rfl

theorem ElementWalk.outlined {names after : Registry} {key : String} {depth first : Nat}
    {models : List Model} {items : List Node} {element : TypeRef}
    (distinct : (file.map Model.name).Nodup) (block : Block file first models) :
    ElementWalk rules key depth names items element models after →
      element.outline file = elementOutline first items ∧
        models.map (fun model => fieldOutlines file model.fields) =
          siteOutlines first (elementSites items)
  | .none => ⟨rfl, rfl⟩
  | .skip found => by
      rw [elementOutline, elementSites]
      exact found.outlined distinct block
  | .first present found => by
      rw [elementOutline_cons_of_present present, elementSites_cons_of_present present]
      exact found.outlined distinct block

theorem FieldsWalk.outlined {overrides : List Override} {depth first : Nat}
    {taken names after : Registry} {members : List (String × Node)} {fields : List Field}
    {models : List Model}
    (distinct : (file.map Model.name).Nodup) (block : Block file first models) :
    FieldsWalk rules overrides depth taken names members fields models after →
      fieldOutlines file fields = memberOutlines first members ∧
        models.map (fun model => fieldOutlines file model.fields) =
          siteOutlines first (memberSites members)
  | .none => ⟨rfl, rfl⟩
  | .member _ found completed others => by
      obtain ⟨type, inner⟩ := found.outlined distinct block.left
      have count := congrArg List.length inner
      simp only [List.length_map, siteOutlines, List.length_zipIdx] at count
      obtain ⟨later, outer⟩ := others.outlined distinct block.right
      obtain ⟨-, key, marked⟩ := completeField_eq_ok completed
      rw [count] at later outer
      constructor
      · rw [fieldOutlines, List.map_cons, key, marked, outline_marked, type]
        exact congrArg _ later
      · rw [List.map_append, inner, outer, memberSites, siteOutlines_append]

end

theorem keys_fieldOutlines (models : List Model) (fields : List Field) :
    (fieldOutlines models fields).map Prod.fst = fields.map Field.key := by
  rw [fieldOutlines, List.map_map]
  rfl

theorem keys_memberOutlines (first : Nat) (members : List (String × Node)) :
    (memberOutlines first members).map Prod.fst = members.map Prod.fst := by
  induction members generalizing first with
  | nil => rfl
  | cons member rest ih => rw [memberOutlines, List.map_cons, List.map_cons, ih]

theorem keys_siteOutlines (first : Nat) (found : List (List (String × Node))) :
    (siteOutlines first found).map (fun outline => outline.map Prod.fst) =
      found.map fun site => site.map Prod.fst := by
  induction found generalizing first with
  | nil => rfl
  | cons site rest ih =>
      rw [← List.singleton_append, siteOutlines_append, List.map_append, List.map_append, ih]
      exact congrArg (· ++ _) (congrArg (fun keys => [keys]) (keys_memberOutlines _ site))

/-- The fields of each class have the keys of the object that the class was made for. -/
theorem FileWalk.keys {config : Config} {overrides : List Override}
    {rootName converterImport : String} {root : Node} {file : ModelFile}
    (walk : FileWalk config overrides rootName converterImport root file) :
    file.models.map (fun model => model.fields.map Field.key) =
      (sites root).map fun site => site.map Prod.fst := by
  have distinct := walk.nodup_names
  cases walk with
  | @root limit members name fields models opened after limited within named inside =>
      have block : Block (⟨name, rootName, fields⟩ :: models) 1 models := List.prefix_rfl
      obtain ⟨own, outlines⟩ := inside.outlined distinct block
      have ownKeys : fields.map Field.key = members.map Prod.fst := by
        rw [← keys_fieldOutlines, own, keys_memberOutlines]
      have keys : models.map (fun model => model.fields.map Field.key) =
          (memberSites members).map fun site => site.map Prod.fst := by
        rw [← keys_siteOutlines 1, ← outlines, List.map_map]
        exact List.map_congr_left fun model _ => (keys_fieldOutlines _ model.fields).symm
      rw [List.map_cons, sites, List.map_cons, ownKeys, keys]

/-- The document alone determines the inferred models in outline: a class for each object, with the
classes inside it right behind. -/
theorem infer_outline {config : Config} {overrides : List Override}
    {rootName converterImport : String} {root : Node} {file : ModelFile}
    (inferred : (infer config overrides rootName converterImport root).result = .ok file) :
    file.models.map (fun model => fieldOutlines file.models model.fields) =
        siteOutlines 0 (sites root) ∧
      Contiguous (sites root) := by
  refine ⟨?_, contiguous_sites root⟩
  have walk := FileWalk.of_infer inferred
  have distinct := walk.nodup_names
  cases walk with
  | @root limit members name fields models opened after limited within named inside =>
      have block : Block (⟨name, rootName, fields⟩ :: models) 1 models := List.prefix_rfl
      obtain ⟨own, outlines⟩ := inside.outlined distinct block
      rw [List.map_cons, own, outlines]
      rfl

theorem infer_outline_orderSample :
    (infer orderConfig orderOverrides "item" "converter.dart" orderSample).result =
        .ok orderFile ∧
      orderFile.models.map (fun model => fieldOutlines orderFile.models model.fields) =
        siteOutlines 0 (sites orderSample) ∧
      Contiguous (sites orderSample) :=
  ⟨infer_orderSample, infer_outline infer_orderSample⟩

end DartModels.Schema
