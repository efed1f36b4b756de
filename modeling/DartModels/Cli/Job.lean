import DartModels.Cli.Arguments
import DartModels.Cli.RunError
import DartModels.Document.Reader
import DartModels.Options.Config
import DartModels.Options.Override
import DartModels.Text.Newline

/-
What a run reads before it changes anything.
-/

namespace DartModels.Cli

open DartModels.Document
open DartModels.Name
open DartModels.Options
open DartModels.Project
open DartModels.Text

/-- The locations that a complete request names. -/
structure Inputs where
  settings : Settings
  document : Location
  outputDirectory : Location
  config : Option Location
  overrides : Option Location

/-- A wrong request is misused, or a run would end with an error before it begins. -/
inductive RequestError where
  | misused
  | failed (error : RunError)

/-- The location that a request names by a path. -/
def namedLocation (workingDirectory : Location) (isAccepted : Location → Bool) (path : String) :
    Except RequestError Location := do
  let location ← (Location.follow workingDirectory path).settle.mapError fun error =>
    .failed (.inaccessible error)
  if isAccepted location then return location else throw .misused

/-- The files that options name must be there. -/
def Settings.files (workingDirectory : Location) (tree : Tree) (settings : Settings) :
    Except RequestError (Option Location × Option Location) :=
  let config := settings.config.mapM (namedLocation workingDirectory tree.contains)
  let overrides := settings.overrides.mapM (namedLocation workingDirectory tree.contains)
  if settings.overridesFirst then do
    let overrides ← overrides
    return (← config, overrides)
  else do
    let config ← config
    return (config, ← overrides)

/-- What is given is checked, the options first: the document must be a file, and no file may
stand in for the output directory. -/
def Request.inputs (workingDirectory : Location) (tree : Tree) (request : Request) :
    Except RequestError Inputs := do
  let named := namedLocation workingDirectory
  let (config, overrides) ← request.settings.files workingDirectory tree
  let document ← request.document.mapM (named tree.isFile)
  let outputDirectory ← request.outputDirectory.mapM (named fun there => !tree.isFile there)
  if !request.surplus.isEmpty then throw .misused
  match document, outputDirectory with
  | some document, some outputDirectory =>
      return ⟨request.settings, document, outputDirectory, config, overrides⟩
  | _, _ => throw (.failed .missingOperand)

/-- A job has all that its generation needs. -/
structure Job where
  document : Value
  className : String
  config : Config
  overrides : List Override

def readText (tree : Tree) (location : Location) : Except RunError String := do
  let content ← (tree.content location).mapError .inaccessible
  let text ← content.decode.mapError .undecodable
  return String.ofList (unifyNewlines text.toList)

/-- Reads a JSON text; `malformed` makes the error for a fault. -/
def readJson (malformed : Fault → RunError) (text : String) : Except RunError Value :=
  (Value.ofJson text).mapError fun failure =>
    match failure with
    | .malformed fault => malformed fault
    | .tooManyDigits excess => .tooManyDigits excess

/-- The document must be an object; white space around it is ignored. -/
def readDocument (tree : Tree) (location : Location) : Except RunError Value := do
  let text := trimmed (← readText tree location)
  if text.isEmpty then throw .emptyDocument
  match ← readJson .malformedDocument text with
  | .mapping entries => return .mapping entries
  | _ => throw .documentNotObject

def readOptionFile (tree : Tree) (location : Location) : Except RunError Value := do
  readJson (.malformedFile location.name) (← readText tree location)

/-- Reserved keys are refused in words of their own. -/
def configError (error : OptionError) : RunError :=
  if error.isReserved then .refusedConfig error else .badConfig error

def readConfig (tree : Tree) (location : Location) : Except RunError Config := do
  match ← readOptionFile tree location with
  | .mapping entries => (Config.ofValue (.mapping entries)).mapError configError
  | _ => throw .configNotObject

def readOverrides (tree : Tree) (location : Location) : Except RunError (List Override) := do
  match ← readOptionFile tree location with
  | .list items => (items.mapM Override.ofValue).mapError .badOverride
  | _ => throw .overridesNotList

/-- The options on the command line prevail when they are set. -/
def applySettings (settings : Settings) (config : Config) : Config :=
  { config with
    makeNullable := if settings.nullable then .boolean true else config.makeNullable
    useDefaultValues := if settings.defaults then .boolean true else config.useDefaultValues }

/-- The class name defaults to the name of the document. -/
def jobClassName (inputs : Inputs) : Except RunError String :=
  (className inputs.settings.entitySuffix
    (inputs.settings.name.getD inputs.document.stem)).mapError .badClassName

def jobConfig (tree : Tree) (inputs : Inputs) : Except RunError Config := do
  let config ← match inputs.config with
    | some location => readConfig tree location
    | none => pure .standard
  return applySettings inputs.settings config

def jobOverrides (tree : Tree) (inputs : Inputs) : Except RunError (List Override) :=
  match inputs.overrides with
  | some location => readOverrides tree location
  | none => pure []

/-- Reads the document, the class name, the config and the overrides, in this order. -/
def readJob (tree : Tree) (inputs : Inputs) : Except RunError Job := do
  let document ← readDocument tree inputs.document
  let className ← jobClassName inputs
  let config ← jobConfig tree inputs
  let overrides ← jobOverrides tree inputs
  return ⟨document, className, config, overrides⟩

end DartModels.Cli
