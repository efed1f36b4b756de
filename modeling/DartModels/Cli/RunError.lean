import DartModels.Document.Fault
import DartModels.Name.ClassName
import DartModels.Options.OptionError
import DartModels.Project.Build
import DartModels.Project.Flutter
import DartModels.Project.Output
import DartModels.Schema.Failure

/-
Reasons why a run of the command ends early.
-/

namespace DartModels.Cli

open DartModels.Document
open DartModels.Name
open DartModels.Number
open DartModels.Options
open DartModels.Project
open DartModels.Text

inductive RunError where
  | missingOperand
  | inaccessible (error : FileError)
  | undecodable (fault : Utf8.Fault)
  | tooManyDigits (excess : TooManyDigits)
  | emptyDocument
  | malformedDocument (fault : Fault)
  | documentNotObject
  | badClassName (error : ClassNameError)
  | malformedFile (name : String) (fault : Fault)
  | configNotObject
  | badConfig (error : OptionError)
  | refusedConfig (error : OptionError)
  | overridesNotList
  | badOverride (error : OptionError)
  | noProjectRoot
  | noConverter (error : FileError)
  | notInferred (failure : Schema.Failure)
  | notWritten (name : String) (error : OutputError)
  | buildFailed (error : BuildError)
  deriving DecidableEq, Repr

namespace RunError

/-- Whether a run reports the error itself; any other one escapes from it. -/
def isReported : RunError → Bool
  | .missingOperand => false
  | .inaccessible _ => false
  | .undecodable _ => false
  | .tooManyDigits _ => false
  | .refusedConfig _ => false
  | .notInferred (.refused (.tooDeep ..)) => true
  | .notInferred _ => false
  | _ => true

def message : RunError → String
  | .missingOperand => "expected str, bytes or os.PathLike object, not NoneType"
  | .inaccessible error => error.message
  | .undecodable fault => fault.message
  | .tooManyDigits excess => excess.message
  | .emptyDocument => "JSON text is required."
  | .malformedDocument fault => "Invalid JSON: " ++ fault.message
  | .documentNotObject => "JSON must be an object (top-level map)."
  | .badClassName error => error.message
  | .malformedFile name fault => "Invalid JSON in " ++ name ++ ": " ++ fault.message
  | .configNotObject => "Config must be a JSON object."
  | .badConfig error => "Invalid config: " ++ error.message
  | .refusedConfig error => error.message
  | .overridesNotList => "Field overrides must be a JSON list."
  | .badOverride error => "Invalid field override: " ++ error.message
  | .noProjectRoot => rootNotFoundMessage
  | .noConverter error => "Failed to prepare json_value_converter.dart: " ++ error.message
  | .notInferred failure => failure.message
  | .notWritten name (.refused error) => "Failed to write " ++ name ++ ": " ++ error.message
  | .notWritten _ error => error.message
  | .buildFailed error => "build_runner failed: " ++ error.message

end RunError

end DartModels.Cli
