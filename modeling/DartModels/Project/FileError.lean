import DartModels.Project.Location
import DartModels.Text.Quoted

/-
Errors of the file system.
-/

namespace DartModels.Project

open DartModels.Text

inductive FileError.Kind where
  | notFound
  | alreadyExists
  | notDirectory
  | isDirectory
  | nameTooLong
  | zeroInName
  deriving DecidableEq, Repr

/-- What the file system refuses, and where. -/
structure FileError where
  kind : FileError.Kind
  location : Location
  deriving DecidableEq, Repr

/-- Names with a zero character are refused before the file system is asked. -/
def FileError.message (error : FileError) : String :=
  let place := ": " ++ quoted error.location.text
  match error.kind with
  | .notFound => "[Errno 2] No such file or directory" ++ place
  | .alreadyExists => "[Errno 17] File exists" ++ place
  | .notDirectory => "[Errno 20] Not a directory" ++ place
  | .isDirectory => "[Errno 21] Is a directory" ++ place
  | .nameTooLong => "[Errno 36] File name too long" ++ place
  | .zeroInName => "embedded null byte"

/-- The greatest size of a name in bytes. -/
def maxNameSize : Nat := 255

/-- The greatest size of the text of a location in bytes. -/
def maxLocationSize : Nat := 4095

def Location.hasZero (location : Location) : Bool :=
  location.any fun name => name.toList.contains '\x00'

/-- Only a location without zero characters can be settled. -/
def Location.settle (location : Location) : Except FileError Location :=
  if location.hasZero then .error ⟨.zeroInName, location⟩ else .ok location.settled

/-- What the file system refuses whatever is there. -/
def Location.checkText (location : Location) : Except FileError.Kind Unit :=
  if location.hasZero then .error .zeroInName
  else if maxLocationSize < location.text.utf8ByteSize then .error .nameTooLong
  else .ok ()

end DartModels.Project
