import DartModels.Document.Refusal
import DartModels.Number.Reading
import DartModels.Options.OptionError

/-
Reasons why no models can be inferred.
-/

namespace DartModels.Schema

open DartModels.Document
open DartModels.Number
open DartModels.Options

inductive Failure where
  | refused (cause : Refusal)
  | rootNotObject (typeName : String)
  | unhashableKey (typeName : String)
  | noMembers (kindName : String)
  | tooManyDigits (excess : TooManyDigits)
  | badOptions (error : OptionError)
  deriving DecidableEq, Repr

def Failure.message : Failure → String
  | .refused cause => cause.message
  | .rootNotObject typeName => "The root JSON value must be an object, got " ++ typeName
  | .unhashableKey typeName => "unhashable type: '" ++ typeName ++ "'"
  | .noMembers kindName => "'" ++ kindName ++ "' object has no attribute 'members'"
  | .tooManyDigits excess => excess.message
  | .badOptions error => error.message

end DartModels.Schema
