/-
Legal names of Dart parameters and classes.
-/

namespace DartModels.Name

/-- Words that Dart reserves or has built in cannot name a parameter. -/
def reservedWords : List String :=
  ["abstract", "as", "assert", "async", "await", "break", "case", "catch", "class", "const",
    "continue", "covariant", "default", "deferred", "do", "else", "enum", "export", "extends",
    "extension", "external", "factory", "false", "final", "finally", "for", "Function", "get",
    "hide", "if", "import", "in", "interface", "is", "late", "library", "mixin", "new", "null",
    "on", "operator", "part", "required", "rethrow", "return", "show", "static", "super",
    "switch", "sync", "this", "throw", "true", "try", "typedef", "var", "void", "while", "with",
    "yield"]

/-- Class names that would hide a core type or an annotation of the generated code. -/
def disallowedClassNames : List String :=
  ["List", "Map", "Set", "Iterable", "Object", "String", "Function", "Null", "Type", "Record",
    "Enum", "Future", "Stream", "DateTime", "Duration", "Uri", "Default", "Freezed", "JsonKey",
    "JsonConverter", "IntJsonConverter", "DoubleJsonConverter", "BoolJsonConverter",
    "StringJsonConverter"]

def isIdentifierChar (c : Char) : Bool := c.isAlphanum || c == '_'

/-- Stands in for an empty name and before a leading digit. -/
def fallbackName : List Char := ['f', 'i', 'e', 'l', 'd']

def nonEmptyName (name : List Char) : List Char :=
  if name.isEmpty then fallbackName else name

def letterFirst : List Char → List Char
  | [] => []
  | c :: rest => if c.isDigit then fallbackName ++ c :: rest else c :: rest

/-- A suffix keeps a parameter name apart from the reserved words. -/
def unreserved (name : String) : String :=
  if reservedWords.contains name then name ++ "Field" else name

/-- The legal parameter name for a text: other characters go, an empty rest and a leading digit
are completed, a reserved word gets a suffix. -/
def identifier (text : String) : String :=
  unreserved (String.ofList (letterFirst (nonEmptyName (text.toList.filter isIdentifierChar))))

/-- A suffix keeps a class name apart from the disallowed ones. -/
def safeClassName (name suffix : String) : String :=
  if disallowedClassNames.contains name then name ++ suffix else name

end DartModels.Name
