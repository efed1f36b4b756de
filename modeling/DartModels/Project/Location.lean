import DartModels.Text.Parts

/-
Absolute locations of files and directories.
-/

namespace DartModels.Project

open DartModels.Text

/-- The names on the way from the root of the file system; two points lead back up. -/
abbrev Location := List String

namespace Location

/-- Names with a slash between them. -/
def joined (names : List String) : String :=
  String.ofList (joinWith '/' (names.map String.toList))

def text (location : Location) : String := "/" ++ joined location

/-- The last name on the way. -/
def name (location : Location) : String := (location.getLast?).getD ""

def parent (location : Location) : Location := location.dropLast

/-- The names in a path; empty parts and single points lead nowhere. -/
def pathNames (path : String) : List String :=
  ((cutAt '/' path.toList).map String.ofList).filter fun part => part != "" && part != "."

/-- Goes on along a path from a directory, or from the root if the path begins with a slash. -/
def follow (base : Location) (path : String) : Location :=
  (if path.toList.head? = some '/' then [] else base) ++ pathNames path

/-- Goes on by one name. -/
def step (location : Location) (name : String) : Location :=
  if name = ".." then location.parent else location ++ [name]

/-- The same way without any name that leads back up. -/
def settled (location : Location) : Location := location.foldl step []

def resolve (base : Location) (path : String) : Location := (follow base path).settled

/-- A location and the directories above it, the nearest one first. -/
def selfAndAbove : Location → List Location
  | [] => [[]]
  | name :: rest => (selfAndAbove rest).map (name :: ·) ++ [[]]

/-- The parts of the way from a directory: up to what both have in common, then down. -/
def relativeParts : (directory target : Location) → List String
  | here :: directory, there :: target =>
      if here = there then relativeParts directory target
      else List.replicate (directory.length + 1) ".." ++ there :: target
  | directory, target => List.replicate directory.length ".." ++ target

/-- The path of the way from a directory, which begins with a point. -/
def relativePath (directory target : Location) : String :=
  match relativeParts directory target with
  | [] => "."
  | parts =>
      let path := joined parts
      if path.toList.head? = some '.' then path else "./" ++ path

/-- A file name without its last suffix; a point at either end begins no suffix. -/
def stemChars (name : List Char) : List Char :=
  let suffix := name.reverse.takeWhile (· != '.')
  let stem := name.take (name.length - suffix.length - 1)
  if suffix.isEmpty ∨ suffix.length = name.length ∨ stem.isEmpty then name else stem

def stem (location : Location) : String := String.ofList (stemChars location.name.toList)

end Location

end DartModels.Project
