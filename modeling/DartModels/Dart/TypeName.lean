import DartModels.Schema.TypeRef

/-
Spelling of types and converters in Dart.
-/

namespace DartModels.Dart

open DartModels.Schema

def scalarName : Scalar → String
  | .string => "String"
  | .integer => "int"
  | .real => "double"
  | .boolean => "bool"

/-- The converter accepts any JSON scalar and makes it the declared kind. -/
def converterName : Scalar → String
  | .string => "StringJsonConverter"
  | .integer => "IntJsonConverter"
  | .real => "DoubleJsonConverter"
  | .boolean => "BoolJsonConverter"

def markNullable (nullable : Bool) (name : String) : String :=
  if nullable then name ++ "?" else name

/-- An untyped field is dynamic, and dynamic takes no mark. -/
def typeName : TypeRef → String
  | .untyped _ => "dynamic"
  | .scalar kind nullable => markNullable nullable (scalarName kind)
  | .model name nullable => markNullable nullable name
  | .list nullable => markNullable nullable "List<dynamic>"
  | .listOf element nullable => markNullable nullable ("List<" ++ typeName element ++ ">")

end DartModels.Dart
