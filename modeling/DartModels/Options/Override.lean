import DartModels.Document.Value
import DartModels.Options.OptionError

/-
Overrides of single fields of the root object.
-/

namespace DartModels.Options

open DartModels.Document

/-- A name or a default may be null, and the key may be any value. -/
structure Override where
  key : Value
  targetName : Option String
  nullable : Value
  defaultValue : Option String

namespace Override

/-- An override whose key is not known yet. -/
structure Draft where
  key? : Option Value
  targetName : Option String
  nullable : Value
  defaultValue : Option String

def Draft.empty : Draft := ⟨none, some "", .null, some ""⟩

/-- The text of a value, unless it is null. -/
def textOf : Value → Option String
  | .null => none
  | value => some value.display

/-- Stores a value under either spelling of its key; an unknown key changes nothing. -/
def Draft.set (draft : Draft) (entry : String × Value) : Draft :=
  let (key, value) := entry
  if key = "json_key" ∨ key = "jsonKey" then { draft with key? := some value }
  else if key = "target_name" ∨ key = "dartName" then { draft with targetName := textOf value }
  else if key = "nullable" then { draft with nullable := value }
  else if key = "default_value" ∨ key = "defaultValue" then
    { draft with defaultValue := textOf value }
  else draft

/-- Makes the override of a draft; `source` is what it was made from. -/
def Draft.finish (source : Value) (draft : Draft) : Except OptionError Override :=
  match draft.key? with
  | some key => .ok ⟨key, draft.targetName, draft.nullable, draft.defaultValue⟩
  | none => .error (.missingKey source.written)

def ofValue : Value → Except OptionError Override
  | .mapping entries =>
      ((Value.textEntries entries).foldl Draft.set Draft.empty).finish (.mapping entries)
  | value => .error (.notMapping value.typeName)

def isFor (override : Override) (key : String) : Bool :=
  match override.key with
  | .text own => own == key
  | _ => false

/-- The last override for a key. -/
def find? (key : String) : List Override → Option Override
  | [] => none
  | override :: rest =>
      match find? key rest with
      | some later => some later
      | none => if override.isFor key then some override else none

/-- The type that keeps the key of an override from being looked up. -/
def unhashableKey? (override : Override) : Option String := override.key.unhashable?

end Override

end DartModels.Options
