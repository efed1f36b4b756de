import DartModels.Project.FileError
import DartModels.Project.Tree

/-
The file system on a tree: what a location leads to, and what can be made and written there.
-/

namespace DartModels.Project

namespace Tree

/-- Goes on by one name from a place; only a directory that is there leads on. -/
def goOn (tree : Tree) (here : Location) (name : String) : Except FileError.Kind Location :=
  if tree.isFile here then .error .notDirectory
  else if !tree.contains here then .error .notFound
  else if name = ".." then .ok here.parent
  else if maxNameSize < name.utf8ByteSize then .error .nameTooLong
  else .ok (here ++ [name])

/-- The place that a location leads to; nothing has to be there yet. -/
def place (tree : Tree) (location : Location) : Except FileError.Kind Location := do
  location.checkText
  location.foldlM tree.goOn []

/-- What a location leads to. A way that is missing or blocked leads to nothing, but a name that
is too long is refused. -/
def find? (tree : Tree) (location : Location) : Except FileError (Option Tree) :=
  match tree.place location with
  | .ok here => .ok (tree.get? here)
  | .error .nameTooLong => .error ⟨.nameTooLong, location⟩
  | .error _ => .ok none

/-- Whether a location leads to a file. -/
def leadsToFile (tree : Tree) (location : Location) : Except FileError Bool := do
  match ← tree.find? location with
  | some (.file _) => return true
  | _ => return false

/-- Whether a location leads to a directory. -/
def leadsToDirectory (tree : Tree) (location : Location) : Bool :=
  match tree.place location with
  | .ok here => tree.isDirectory here
  | .error _ => false

/-- Makes a directory where nothing is yet. -/
def makeDirectory (tree : Tree) (location : Location) : Except FileError.Kind Tree := do
  let here ← tree.place location
  if tree.contains here then throw .alreadyExists
  return tree.set here empty

/-- Makes a directory unless it is there. -/
def ensureDirectory (tree : Tree) (location : Location) : Except FileError Unit × Tree :=
  match tree.makeDirectory location with
  | .ok made => (.ok (), made)
  | .error kind =>
      (if tree.leadsToDirectory location then .ok () else .error ⟨kind, location⟩, tree)

/-- Makes the directory that the first names of a location lead to, and before it those that are
missing on the way; what was made stays when the way turns out to be blocked. -/
def makeFirst (tree : Tree) (location : Location) : (count : Nat) → Except FileError Unit × Tree
  | 0 => (.ok (), tree)
  | count + 1 =>
      match tree.makeDirectory (location.take (count + 1)) with
      | .error .notFound =>
          match tree.makeFirst location count with
          | (.ok (), prepared) => prepared.ensureDirectory (location.take (count + 1))
          | blocked => blocked
      | _ => tree.ensureDirectory (location.take (count + 1))

/-- Makes a directory and those above it unless they are there. -/
def makeDirectories (tree : Tree) (location : Location) : Except FileError Unit × Tree :=
  tree.makeFirst location location.length

/-- Writes a file in a directory that is there. -/
def writeFile (tree : Tree) (location : Location) (content : Content) : Except FileError Tree :=
  match tree.place location with
  | .error kind => .error ⟨kind, location⟩
  | .ok here =>
      if tree.isDirectory here then .error ⟨.isDirectory, location⟩
      else .ok (tree.set here (.file content))

/-- The content of a file. -/
def content (tree : Tree) (location : Location) : Except FileError Content :=
  match tree.get? location with
  | some (.file content) => .ok content
  | some (.directory _) => .error ⟨.isDirectory, location⟩
  | none => .error ⟨.notFound, location⟩

/-- Moves a file from its place to a location, over a file that is there. -/
def moveFile (tree : Tree) (source target : Location) : Except FileError Tree := do
  let content ← tree.content source
  (tree.remove source).writeFile target content

end Tree

end DartModels.Project
