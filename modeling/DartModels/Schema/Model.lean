import DartModels.Schema.TypeRef

/-
Model classes and the files that hold them.
-/

namespace DartModels.Schema

/-- A field stands for one member of a JSON object. -/
structure Field where
  name : String
  key : String
  type : TypeRef
  defaultLiteral : Option String
  deriving DecidableEq, Repr

namespace Field

/-- The key must be annotated when the field name differs from it. -/
def needsKey (field : Field) : Bool := field.name != field.key

/-- Fields without members go through a converter for their kind. -/
def converter? (field : Field) : Option Scalar := field.type.scalar?

/-- A field with a default or a type that accepts null need not be given. -/
def isRequired (field : Field) : Bool :=
  !field.type.acceptsNull && field.defaultLiteral.isNone

end Field

/-- The origin of a class is the root name or the key that it was made for. -/
structure Model where
  name : String
  origin : String
  fields : List Field
  deriving DecidableEq, Repr

/-- The root model comes first, the others in the order of their discovery. -/
structure ModelFile where
  rootName : String
  converterImport : String
  models : List Model
  deriving DecidableEq, Repr

end DartModels.Schema
