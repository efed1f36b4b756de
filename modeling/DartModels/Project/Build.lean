import DartModels.Text.Blank

/-
Runs of the tool that builds the part files.
-/

namespace DartModels.Project

open DartModels.Text

def buildCommand : List String :=
  ["dart", "run", "build_runner", "build", "--delete-conflicting-outputs"]

/-- How a started command ended. -/
structure BuildResult where
  code : Int
  complaint : Option String
  deriving DecidableEq, Repr

inductive BuildError where
  | notStarted
  | failed (result : BuildResult)
  deriving DecidableEq, Repr

/-- A failed command is described by what it wrote, or else by its code. -/
def BuildError.message : BuildError → String
  | .notStarted => "Unable to run dart: [Errno 2] No such file or directory: 'dart'"
  | .failed result =>
      let complaint := trimmed (result.complaint.getD "")
      if complaint.isEmpty then "build_runner exited with code " ++ toString result.code
      else complaint

/-- A command that cannot be started has no result. -/
def checkBuild : Option BuildResult → Except BuildError Unit
  | none => .error .notStarted
  | some result => if result.code = 0 then .ok () else .error (.failed result)

end DartModels.Project
