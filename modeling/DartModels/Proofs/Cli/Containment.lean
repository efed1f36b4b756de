import DartModels.Proofs.Cli.Course
import DartModels.Proofs.Cli.Request
import DartModels.Proofs.Document.Decoding
import DartModels.Proofs.Options.Reserved
import DartModels.Proofs.Schema.Totality
import DartModels.Proofs.Text.Trimming

/-
Errors that a run of the command reports, and the defects in its inputs that let others escape.
-/

namespace DartModels.Cli

open DartModels.Dart
open DartModels.Document
open DartModels.Name
open DartModels.Options
open DartModels.Project
open DartModels.Schema
open DartModels.Text

/-! Reports -/

/-- The locations that the inputs are read from. -/
inductive Inputs.Reads (inputs : Inputs) : Location → Prop
  | document : inputs.Reads inputs.document
  | config {location : Location} (named : inputs.config = some location) : inputs.Reads location
  | overrides {location : Location} (named : inputs.overrides = some location) :
      inputs.Reads location

section Requests

variable {workingDirectory : Location} {tree : Tree} {request : Request} {path : String}

end Requests

/-! Runs -/

section Runs

variable {tree : Tree} {inputs : Inputs}

end Runs

end DartModels.Cli
