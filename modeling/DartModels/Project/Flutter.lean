import DartModels.Dart.ConverterModule
import DartModels.Project.FileSystem

/-
Flutter projects: their root and their converter module.
-/

namespace DartModels.Project

open DartModels.Dart

def pubspecName : String := "pubspec.yaml"

def holdsPubspec (tree : Tree) (directory : Location) : Except FileError Bool :=
  tree.leadsToFile (directory ++ [pubspecName])

/-- A file lies in the project of its directory. -/
def searchStart (tree : Tree) (start : Location) : Except FileError Location := do
  return if ← tree.leadsToFile start then start.parent else start

/-- The nearest directory, the start included, that holds a pubspec file. -/
def projectRoot? (tree : Tree) (start : Location) : Except FileError (Option Location) := do
  let start ← searchStart tree start
  start.selfAndAbove.findM? (holdsPubspec tree)

def rootNotFoundMessage : String :=
  "Unable to locate Flutter project root (pubspec.yaml)."

def converterParts : List String := ["lib", "generate", ConverterModule.fileName]

def converterLocation (root : Location) : Location := root ++ converterParts

/-- Creates the converter module unless something is there; the answer says whether it did. -/
def ensureConverter (tree : Tree) (root : Location) : Except FileError Bool × Tree :=
  let location := converterLocation root
  match tree.find? location with
  | .error error => (.error error, tree)
  | .ok (some _) => (.ok false, tree)
  | .ok none =>
      match tree.makeDirectories location.parent with
      | (.error error, prepared) => (.error error, prepared)
      | (.ok (), prepared) =>
          match prepared.writeFile location (.text ConverterModule.content) with
          | .error error => (.error error, prepared)
          | .ok written => (.ok true, written)

end DartModels.Project
