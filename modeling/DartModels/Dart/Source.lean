import DartModels.Dart.StringLiteral
import DartModels.Dart.TypeName
import DartModels.Name.ClassName
import DartModels.Schema.Model
import DartModels.Text.Parts

/-
Dart source of model files, line by line.
-/

namespace DartModels.Dart

open DartModels.Name
open DartModels.Schema
open DartModels.Text

def annotationImport : String := "package:freezed_annotation/freezed_annotation.dart"

/-- The import and part directives at the head of a file. -/
def directives (file : ModelFile) : List String :=
  let stem := fileStem file.rootName
  ["import '" ++ annotationImport ++ "';", "import '" ++ file.converterImport ++ "';", "",
    "part '" ++ stem ++ ".freezed.dart';", "part '" ++ stem ++ ".g.dart';"]

def keyLine (field : Field) : List String :=
  if field.needsKey then
    ["    @JsonKey(name: " ++ StringLiteral.literal field.key ++ ")"]
  else []

def converterLine (field : Field) : List String :=
  match field.converter? with
  | some kind => ["    @" ++ converterName kind ++ "()"]
  | none => []

def defaultLine (field : Field) : List String :=
  match field.defaultLiteral with
  | some literal => ["    @Default(" ++ literal ++ ")"]
  | none => []

def parameterLine (field : Field) : String :=
  "    " ++ (if field.isRequired then "required " else "") ++ typeName field.type ++ " " ++
    field.name ++ ","

/-- The annotations of a parameter stand on lines of their own before it. -/
def fieldLines (field : Field) : List String :=
  keyLine field ++ converterLine field ++ defaultLine field ++ [parameterLine field]

def modelLines (model : Model) : List String :=
  ["@Freezed(fromJson: true, toJson: true)",
    "abstract class " ++ model.name ++ " with _$" ++ model.name ++ " \x7b",
    "  const factory " ++ model.name ++ "(\x7b"] ++
  model.fields.flatMap fieldLines ++
  ["  \x7d) = _" ++ model.name ++ ";", "",
    "  factory " ++ model.name ++ ".fromJson(Map<String, dynamic> json) => _$" ++ model.name ++
      "FromJson(json);",
    "\x7d"]

/-- An empty line precedes every class. -/
def sourceLines (file : ModelFile) : List String :=
  directives file ++ file.models.flatMap fun model => "" :: modelLines model

def source (file : ModelFile) : String := unlines (sourceLines file)

end DartModels.Dart
