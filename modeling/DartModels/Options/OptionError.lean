/-
Errors in loosely typed options.
-/

namespace DartModels.Options

/-- The records that options are kept in. -/
inductive Holder where
  | config
  | defaults
  deriving DecidableEq, Repr

def Holder.name : Holder → String
  | .config => "CodeGeneratorConfig"
  | .defaults => "DefaultValues"

/-- Some keys are reserved: a value under them is refused, or takes the place of what a record
needs to be read or to be written out. -/
inductive OptionError where
  | notMapping (typeName : String)
  | defaultsNotMapping (typeName : String)
  | missingKey (written : String)
  | classRefused (typeName : String)
  | storeRefused (typeName : String)
  | referenceRefused (holder : Holder)
  | writerReplaced (typeName : String)
  | fieldListReplaced
  | defaultsReplaced
  | defaultsMissing
  | noDefault (typeName key : String)
  deriving DecidableEq, Repr

namespace OptionError

/-- Whether a reserved key is the cause. -/
def isReserved : OptionError → Bool
  | .notMapping _ => false
  | .defaultsNotMapping _ => false
  | .missingKey _ => false
  | _ => true

def noAttribute (typeName key : String) : String :=
  "'" ++ typeName ++ "' object has no attribute '" ++ key ++ "'"

def message : OptionError → String
  | .notMapping typeName => noAttribute typeName "items"
  | .defaultsNotMapping typeName => "'defaults' must be a mapping, got " ++ typeName
  | .missingKey written => "Field override is missing its JSON key: " ++ written
  | .classRefused typeName => "__class__ must be set to a class, not '" ++ typeName ++ "' object"
  | .storeRefused typeName => "__dict__ must be set to a dictionary, not a '" ++ typeName ++ "'"
  | .referenceRefused holder =>
      "attribute '__weakref__' of '" ++ holder.name ++ "' objects is not writable"
  | .writerReplaced typeName => "'" ++ typeName ++ "' object is not callable"
  | .fieldListReplaced => noAttribute "str" "values"
  | .defaultsReplaced => "asdict() should be called on dataclass instances"
  | .defaultsMissing => noAttribute Holder.config.name "defaults"
  | .noDefault typeName key => noAttribute typeName key

end OptionError

end DartModels.Options
