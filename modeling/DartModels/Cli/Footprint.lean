import DartModels.Cli.Run

/-
The part of a file tree that a run depends on.
-/

namespace DartModels.Cli

open DartModels.Project

/-- The locations that a request names. -/
def Request.locations (workingDirectory : Location) (request : Request) : List Location :=
  let paths := request.document.toList ++ request.outputDirectory.toList ++
    request.settings.config.toList ++ request.settings.overrides.toList
  paths.map (Location.resolve workingDirectory)

/-- The converter modules of the directories at and above the output. -/
def converterFootprint (inputs : Inputs) : List Location :=
  inputs.outputDirectory.selfAndAbove.map converterLocation

def pubspecFootprint (inputs : Inputs) : List Location :=
  inputs.outputDirectory.selfAndAbove.map (· ++ [pubspecName])

/-- The output, if the class name is legal. -/
def outputFootprint (inputs : Inputs) : List Location :=
  match jobClassName inputs with
  | .ok className => [inputs.outputDirectory ++ [Name.fileName className]]
  | .error _ => []

/-- A run looks at no other locations. -/
def Inputs.footprint (inputs : Inputs) : List Location :=
  [inputs.document, inputs.outputDirectory] ++ inputs.config.toList ++
    inputs.overrides.toList ++ pubspecFootprint inputs ++ converterFootprint inputs ++
    outputFootprint inputs

/-- A run writes at no other locations. -/
def Inputs.targets (inputs : Inputs) : List Location :=
  converterFootprint inputs ++ outputFootprint inputs

/-- The text that a run has put at a location. -/
def newText? (before after : Tree) (location : Location) : Option String :=
  match before.get? location, after.get? location with
  | some (.file (.text old)), some (.file (.text new)) => if old = new then none else some new
  | _, some (.file (.text new)) => some new
  | _, _ => none

end DartModels.Cli
