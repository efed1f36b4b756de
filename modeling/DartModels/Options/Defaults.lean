import DartModels.Document.Value
import DartModels.Options.OptionError

/-
Texts that a user configures as default values.
-/

namespace DartModels.Options

open DartModels.Document

/-- One raw text for each kind of field; a text may also take the place of the list of fields. -/
structure Defaults where
  stringValue : String
  intValue : String
  doubleValue : String
  boolValue : String
  listValue : String
  fieldList? : Option String
  deriving DecidableEq, Repr

namespace Defaults

def empty : Defaults := ⟨"", "", "", "", "", none⟩

/-- Stores a text under its key; an unknown key changes nothing. -/
def set (defaults : Defaults) (key text : String) : Except OptionError Defaults :=
  match key with
  | "string_value" => .ok { defaults with stringValue := text }
  | "int_value" => .ok { defaults with intValue := text }
  | "double_value" => .ok { defaults with doubleValue := text }
  | "bool_value" => .ok { defaults with boolValue := text }
  | "list_value" => .ok { defaults with listValue := text }
  | "__dataclass_fields__" => .ok { defaults with fieldList? := some text }
  | "__class__" => .error (.classRefused (Value.text text).typeName)
  | "__dict__" => .error (.storeRefused (Value.text text).typeName)
  | "__weakref__" => .error (.referenceRefused .defaults)
  | _ => .ok defaults

/-- A null leaves its key alone, any other value is stored by its text. -/
def setValue (defaults : Defaults) (entry : String × Value) : Except OptionError Defaults :=
  match entry.2 with
  | .null => .ok defaults
  | value => defaults.set entry.1 value.display

def ofEntries (entries : List (String × Value)) : Except OptionError Defaults :=
  entries.foldlM setValue empty

def ofValue : Value → Except OptionError Defaults
  | .mapping entries => ofEntries (Value.textEntries entries)
  | value => .error (.notMapping value.typeName)

/-- The entries from which the same texts can be made again. -/
def entries (defaults : Defaults) : Except OptionError (List (String × Value)) :=
  match defaults.fieldList? with
  | some _ => .error .fieldListReplaced
  | none =>
      .ok [("string_value", .text defaults.stringValue), ("int_value", .text defaults.intValue),
        ("double_value", .text defaults.doubleValue), ("bool_value", .text defaults.boolValue),
        ("list_value", .text defaults.listValue)]

end Defaults

end DartModels.Options
