import DartModels.Name.Casing
import DartModels.Text.Blank

/-
The class name and the file name for a name that a user gives.
-/

namespace DartModels.Name

open DartModels.Text

inductive ClassNameError where
  | missing
  | invalid
  deriving DecidableEq, Repr

def ClassNameError.message : ClassNameError → String
  | .missing => "Class name is required."
  | .invalid => "Class name must be a valid Dart identifier."

/-- The comparison ignores the case of ASCII letters. -/
def endsWithEntity (text : List Char) : Bool :=
  "_entity".toList.isSuffixOf (text.map Char.toLower)

/-- A name gets the suffix `_entity` unless it is empty or ends with it. -/
def withEntitySuffix (text : String) : String :=
  if text.isEmpty || endsWithEntity text.toList then text else text ++ "_entity"

/-- The class name in Pascal case, with the entity suffix if it is asked for. -/
def className (entitySuffix : Bool) (given : String) : Except ClassNameError String :=
  let name := trimmed given
  if name.isEmpty then .error .missing
  else
    let result := pascal (if entitySuffix then withEntitySuffix name else name)
    if result.isEmpty then .error .invalid else .ok result

/-- The stem that a model file shares with its part files. -/
def fileStem (rootName : String) : String :=
  let stem := snake rootName
  if stem.isEmpty then "model" else stem

def fileName (rootName : String) : String := fileStem rootName ++ ".dart"

end DartModels.Name
