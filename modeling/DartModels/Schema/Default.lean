import DartModels.Dart.StringLiteral
import DartModels.Number.Reading
import DartModels.Options.Defaults
import DartModels.Schema.TypeRef
import DartModels.Text.Blank

/-
Default literals of fields.
-/

namespace DartModels.Schema

open DartModels.Dart
open DartModels.Number
open DartModels.Options
open DartModels.Text

namespace Default

/-- The integer at the beginning of a text, or zero when there is none. -/
def integerLiteral (raw : String) : Except TooManyDigits String :=
  match takeInteger digitValue? (trimStart raw.toList) with
  | none => .ok "0"
  | some (negative, digits) => (ofSignedDigits negative digits).map toString

/-- The finite double at the beginning of a text, or zero when there is none. -/
def realLiteral (raw : String) : String :=
  match takeReal digitValue? (trimStart raw.toList) with
  | some (value, _) => if value.isFinite then value.text else "0.0"
  | none => "0.0"

/-- Any text but the two truth values counts as false. -/
def booleanLiteral (raw : String) : String :=
  let word := (trim raw.toList).map Char.toLower
  if word = "true".toList then "true" else "false"

/-- A blank text stands for the empty list. -/
def listLiteral (raw : String) : String :=
  let text := trimmed raw
  if text.isEmpty then "const []" else text

def scalarLiteral (defaults : Defaults) : Scalar → Except TooManyDigits String
  | .string => .ok (StringLiteral.literal defaults.stringValue)
  | .integer => integerLiteral defaults.intValue
  | .real => .ok (realLiteral defaults.doubleValue)
  | .boolean => .ok (booleanLiteral defaults.boolValue)

/-- The key of the configured text that a scalar takes its default from. -/
def scalarKey : Scalar → String
  | .string => "string_value"
  | .integer => "int_value"
  | .real => "double_value"
  | .boolean => "bool_value"

/-- The key of the configured text that a type takes its default from, if it takes any. -/
def key? : TypeRef → Option String
  | .untyped _ => none
  | .model _ _ => none
  | .scalar kind _ => some (scalarKey kind)
  | .list _ => some "list_value"
  | .listOf _ _ => some "list_value"

/-- Models and untyped fields have no default literal. -/
def literal? (defaults : Defaults) : TypeRef → Except TooManyDigits (Option String)
  | .untyped _ => .ok none
  | .model _ _ => .ok none
  | .scalar kind _ => (scalarLiteral defaults kind).map some
  | .list _ => .ok (some (listLiteral defaults.listValue))
  | .listOf _ _ => .ok (some (listLiteral defaults.listValue))

end Default

end DartModels.Schema
