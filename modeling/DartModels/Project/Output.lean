import DartModels.Dart.Structure
import DartModels.Project.FileSystem

/-
Writing of generated files, all or nothing.
-/

namespace DartModels.Project

open DartModels.Dart
open DartModels.Text

/-- What happens to an output that is already there. -/
inductive OutputMode where
  | errorIfExists
  | force
  deriving DecidableEq, Repr

def OutputMode.ofText? : String → Option OutputMode
  | "error" => some .errorIfExists
  | "force" => some .force
  | _ => none

inductive OutputError where
  | unknownMode (written : String)
  | outputExists (location : Location)
  | refused (error : FileError)
  | malformed (error : StructureError)
  deriving DecidableEq, Repr

def OutputError.message : OutputError → String
  | .unknownMode written => written ++ " is not a valid OutputMode"
  | .outputExists location =>
      "Output file already exists: " ++ location.text ++ ". Use force mode to overwrite."
  | .refused error => error.message
  | .malformed error => error.message

/-- The check may be left out. -/
def checkOutput (validate : Bool) (text : String) : Except OutputError Unit :=
  if validate then (checkStructure text).mapError .malformed else .ok ()

/-- A file is written under a temporary name first, which is longer than its own. Its mark has
eight characters, which are left to chance; here the marks are counted. -/
def temporaryName (name : String) (mark : Nat) : String :=
  let digits := (toString mark).toList
  let marked := List.replicate (8 - digits.length) 'x' ++ digits
  "." ++ name ++ "." ++ String.ofList marked ++ ".tmp"

def temporaryLocation (target : Location) (mark : Nat) : Location :=
  target.parent ++ [temporaryName target.name mark]

/-- The number of marks that are tried. -/
def maxTries : Nat := 10000

/-- The place of a temporary file beside a target, where nothing is yet. -/
def stagingPlace (tree : Tree) (target : Location) :
    (tries mark : Nat) → Except FileError Location
  | 0, mark => .error ⟨.alreadyExists, temporaryLocation target mark⟩
  | tries + 1, mark =>
      match tree.place (temporaryLocation target mark) with
      | .error kind => .error ⟨kind, temporaryLocation target mark⟩
      | .ok here =>
          if tree.contains here then stagingPlace tree target tries (mark + 1) else .ok here

/-- Writes a file in a directory that is there: under a temporary name, then after its check
under its own. The temporary file is taken away when that fails. -/
def replaceFile (validate : Bool) (target : Location) (text : String) (tree : Tree) :
    Except OutputError Unit × Tree :=
  match stagingPlace tree target maxTries 0 with
  | .error error => (.error (.refused error), tree)
  | .ok staging =>
      let staged := tree.set staging (.file (.text text))
      match checkOutput validate text with
      | .error error => (.error error, staged.remove staging)
      | .ok () =>
          match staged.moveFile staging target with
          | .error error => (.error (.refused error), staged.remove staging)
          | .ok moved => (.ok (), moved)

/-- Whether the mode forbids to write where something is already. -/
def isForbidden (mode : OutputMode) (target : Location) (tree : Tree) : Except FileError Bool :=
  match mode with
  | .errorIfExists => (tree.find? target).map Option.isSome
  | .force => .ok false

/-- Writes a file after its check; the directories for it stay when it is not written. -/
def writeOutput (mode : OutputMode) (validate : Bool) (target : Location) (text : String)
    (tree : Tree) : Except OutputError Unit × Tree :=
  match isForbidden mode target tree with
  | .error error => (.error (.refused error), tree)
  | .ok true => (.error (.outputExists target), tree)
  | .ok false =>
      match tree.makeDirectories target.parent with
      | (.error error, prepared) => (.error (.refused error), prepared)
      | (.ok (), prepared) => replaceFile validate target text prepared

end DartModels.Project
