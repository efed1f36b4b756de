import DartModels.Project.Location

/-
Events of work in a project.
-/

namespace DartModels.Project

inductive Event where
  | converterCreated (location : Location)
  | outputWritten (location : Location)
  | buildStarted (root : Location)
  deriving DecidableEq, Repr

end DartModels.Project
