import DartModels.Document.Node
import DartModels.Name.Casing
import DartModels.Name.Identifier
import DartModels.Name.Registry
import DartModels.Options.Config
import DartModels.Options.Override
import DartModels.Schema.Default
import DartModels.Schema.Event
import DartModels.Schema.Failure
import DartModels.Schema.Model
import DartModels.Schema.Traced

/-
Inference of models from a sample object, depth first and in document order.
-/

namespace DartModels.Schema

open DartModels.Document
open DartModels.Name
open DartModels.Options
open DartModels.Text

abbrev Inference := Traced Event Failure

/-- Where an object stands decides how its class is named. -/
inductive Place where
  | root
  | member
  | element
  deriving DecidableEq, Repr

namespace Place

/-- The base name for an object whose key has no words. -/
def fallback : Place → String
  | .root => "Model"
  | .member => "Nested"
  | .element => "Item"

/-- The suffix for a base name that is disallowed. -/
def suffix : Place → String
  | .root => "Model"
  | .member => "Model"
  | .element => "Item"

/-- The elements of a list are named by the singular of its key. -/
def origin (place : Place) (key : String) : String :=
  match place with
  | .element => singular key
  | _ => key

end Place

/-- The base of a class name, before it is made unique. -/
def classBase (place : Place) (origin : String) : String :=
  let name := pascal origin
  safeClassName (if name.isEmpty then place.fallback else name) place.suffix

/-- The name that an override asks for, trimmed. -/
def askedName (override : Option Override) : String :=
  match override.bind Override.targetName with
  | some name => trimmed name
  | none => ""

/-- The base of a field name, before it is made unique. -/
def fieldBase (override : Option Override) (key : String) : String :=
  let asked := askedName override
  identifier (if asked.isEmpty then camel key else asked)

/-- An override decides on nullability if it says anything about it. -/
def wantsNullable (config : Config) (override : Option Override) : Bool :=
  match override.map Override.nullable with
  | none => config.makeNullable.holds
  | some .null => config.makeNullable.holds
  | some value => value.holds

/-- The default that an override gives, unless it is blank. -/
def askedDefault (override : Option Override) : Option String :=
  (override.bind Override.defaultValue).filter fun text => !isBlankText text

/-- The default literal of a type; a value in the place of the configured texts has none of
them. -/
def configuredDefault (config : Config) (type : TypeRef) : Except Failure (Option String) :=
  match config.defaults, Default.key? type with
  | .texts defaults, _ => (Default.literal? defaults type).mapError .tooManyDigits
  | .other value, some key => .error (.badOptions (.noDefault value.typeName key))
  | .other _, none => .ok none
  | .missing, _ => .error (.badOptions .defaultsMissing)

/-- An override's default is used verbatim, any other comes from the configured texts. -/
def fieldDefault (config : Config) (override : Option Override) (type : TypeRef) :
    Except Failure (Option String) :=
  match askedDefault override with
  | some text => .ok (some text)
  | none =>
      if config.useDefaultValues.holds then configuredDefault config type else .ok none

/-- The field for a member whose type was inferred. -/
def completeField (config : Config) (override : Option Override) (name key : String)
    (inferred : TypeRef) : Except Failure Field := do
  let type := if wantsNullable config override then inferred.asNullable else inferred
  let default ← fieldDefault config override type
  return ⟨name, key, type, default⟩

/-- What stays the same during a walk. -/
structure Rules where
  config : Config
  limit : DepthLimit

/-- A container on the walk may not lie beyond the limit. -/
def Rules.checkDepth (rules : Rules) (path : Path) (depth : Nat) : Inference Unit :=
  match rules.limit.check path depth with
  | .ok () => pure ()
  | .error refusal => Traced.failWith (.walkTooDeep path) (.refused refusal)

/-- Names the class of an object before its members are looked at. -/
def openModel (rules : Rules) (place : Place) (origin : String) (path : Path) (depth : Nat)
    (names : Registry) : Inference (String × Registry) := do
  rules.checkDepth path depth
  let (name, names) := names.unique (classBase place origin)
  Traced.note (.modelOpened name path)
  return (name, names)

/-- A null among the elements makes their type nullable. -/
def listType (items : List Node) (element : TypeRef) : TypeRef :=
  .listOf (if items.any Node.isNull then element.asNullable else element) false

mutual

/-- The type of a value in a container at the given depth, with the models found in it. -/
def inferType (rules : Rules) (place : Place) (key : String) (path : Path) (depth : Nat)
    (names : Registry) : Node → Inference (TypeRef × List Model × Registry)
  | .null => pure (.untyped false, [], names)
  | .boolean _ => pure (.scalar .boolean false, [], names)
  | .integer _ => pure (.scalar .integer false, [], names)
  | .real _ => pure (.scalar .real false, [], names)
  | .text _ => pure (.scalar .string false, [], names)
  | .unknown => pure (.untyped false, [], names)
  | .array items => do
      rules.checkDepth path (depth + 1)
      let (element, models, names) ← inferElement rules key path (depth + 1) 0 names items
      return (listType items element, models, names)
  | .object members => do
      let origin := place.origin key
      let (name, names) ← openModel rules place origin path (depth + 1) names
      let (fields, models, names) ←
        inferFields rules [] path (depth + 1) Registry.empty names members
      return (.model name false, ⟨name, origin, fields⟩ :: models, names)

/-- The type of the elements of a list is that of the first one that is not null. -/
def inferElement (rules : Rules) (key : String) (path : Path) (depth index : Nat)
    (names : Registry) : List Node → Inference (TypeRef × List Model × Registry)
  | [] => pure (.untyped false, [], names)
  | .null :: rest => inferElement rules key path depth (index + 1) names rest
  | item :: _ => do
      let found ← inferType rules .element key (path.index index) depth names item
      Traced.note (.elementResolved path index)
      return found

/-- The fields for the members of an object; `taken` holds the field names before them. -/
def inferFields (rules : Rules) (overrides : List Override) (path : Path) (depth : Nat)
    (taken names : Registry) :
    List (String × Node) → Inference (List Field × List Model × Registry)
  | [] => pure ([], [], names)
  | (key, value) :: rest => do
      let override := Override.find? key overrides
      let (name, taken) := taken.unique (fieldBase override key)
      let (type, inner, names) ←
        inferType rules .member key (path.key key) depth names value
      let field ← Traced.ofExcept (completeField rules.config override name key type)
      let (fields, later, names) ← inferFields rules overrides path depth taken names rest
      return (field :: fields, inner ++ later, names)

end

/-- The first override whose key cannot be looked up makes the inference fail. -/
def checkKeys (overrides : List Override) : Except Failure Unit :=
  match overrides.findSome? Override.unhashableKey? with
  | some typeName => .error (.unhashableKey typeName)
  | none => .ok ()

/-- The models of a document, the root model first; the root must be an object. -/
def inferModels (config : Config) (overrides : List Override) (rootName : String)
    (root : Node) : Inference (List Model) := do
  Traced.ofExcept (config.checkDefaults.mapError Failure.badOptions)
  Traced.ofExcept (checkKeys overrides)
  let limit ← Traced.ofExcept
    ((DepthLimit.ofConfigured config.maxDepth).mapError Failure.refused)
  let rules : Rules := ⟨config, limit⟩
  let (name, names) ← openModel rules .root rootName .root 0 Registry.empty
  match root with
  | .object members =>
      let (fields, models, _) ←
        inferFields rules overrides .root 0 Registry.empty names members
      return ⟨name, rootName, fields⟩ :: models
  | node => Traced.ofExcept (.error (.noMembers node.kindName))

/-- The model file of a document. -/
def infer (config : Config) (overrides : List Override) (rootName converterImport : String)
    (root : Node) : Inference ModelFile := do
  let models ← inferModels config overrides rootName root
  return ⟨rootName, converterImport, models⟩

end DartModels.Schema
