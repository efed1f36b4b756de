/-
Types of model fields.
-/

namespace DartModels.Schema

/-- The kinds of values without members. -/
inductive Scalar where
  | string
  | integer
  | real
  | boolean
  deriving DecidableEq, Repr

/-- A list need not know the type of its elements. -/
inductive TypeRef where
  | untyped (nullable : Bool)
  | scalar (kind : Scalar) (nullable : Bool)
  | model (name : String) (nullable : Bool)
  | list (nullable : Bool)
  | listOf (element : TypeRef) (nullable : Bool)
  deriving DecidableEq, Repr

namespace TypeRef

def isNullable : TypeRef → Bool
  | .untyped nullable => nullable
  | .scalar _ nullable => nullable
  | .model _ nullable => nullable
  | .list nullable => nullable
  | .listOf _ nullable => nullable

/-- An untyped field accepts null without being marked. -/
def acceptsNull : TypeRef → Bool
  | .untyped _ => true
  | type => type.isNullable

/-- Marks a type nullable unless it accepts null already. -/
def asNullable : TypeRef → TypeRef
  | .untyped nullable => .untyped nullable
  | .scalar kind _ => .scalar kind true
  | .model name _ => .model name true
  | .list _ => .list true
  | .listOf element _ => .listOf element true

def scalar? : TypeRef → Option Scalar
  | .scalar kind _ => some kind
  | _ => none

end TypeRef

theorem acceptsNull_asNullable (type : TypeRef) : type.asNullable.acceptsNull = true := by
  cases type <;> rfl

theorem scalar?_asNullable (type : TypeRef) : type.asNullable.scalar? = type.scalar? := by
  cases type <;> rfl

theorem asNullable_marked (type : TypeRef) (marked : Bool) :
    TypeRef.asNullable (if marked then type.asNullable else type) = type.asNullable := by
  cases marked <;> cases type <;> rfl

end DartModels.Schema
