import DartModels.Project.Location
import DartModels.Text.Utf8

/-
File trees.
-/

namespace DartModels.Project

open DartModels.Text

/-- The content of a file is a text unless its bytes decode to none. -/
inductive Content where
  | text (value : String)
  | bytes (value : List Nat)
  deriving DecidableEq, Repr

def Content.ofBytes (bytes : List Nat) : Content :=
  match Utf8.decode bytes with
  | .ok decoded => .text decoded
  | .error _ => .bytes bytes

def Content.decode : Content → Except Utf8.Fault String
  | .text value => .ok value
  | .bytes value => Utf8.decode value

inductive Tree where
  | file (content : Content)
  | directory (entries : List (String × Tree))

namespace Tree

def empty : Tree := .directory []

/-- What is found at a location. -/
def get? : Tree → Location → Option Tree
  | tree, [] => some tree
  | .file _, _ :: _ => none
  | .directory entries, name :: rest =>
      match entries.lookup name with
      | some child => child.get? rest
      | none => none

def contains (tree : Tree) (location : Location) : Bool := (tree.get? location).isSome

def isFile (tree : Tree) (location : Location) : Bool :=
  match tree.get? location with
  | some (.file _) => true
  | _ => false

def isDirectory (tree : Tree) (location : Location) : Bool :=
  match tree.get? location with
  | some (.directory _) => true
  | _ => false

/-- Replaces the entry of a name, or adds it after the others. -/
def setEntry (name : String) (child : Tree) : List (String × Tree) → List (String × Tree)
  | [] => [(name, child)]
  | (known, old) :: rest =>
      if known = name then (name, child) :: rest else (known, old) :: setEntry name child rest

/-- Puts something at a location and makes the directories that are missing on the way; there is
no way through a file. -/
def set : Tree → Location → Tree → Tree
  | _, [], new => new
  | .file content, _ :: _, _ => .file content
  | .directory entries, name :: rest, new =>
      let child := (entries.lookup name).getD empty
      .directory (setEntry name (child.set rest new) entries)

/-- Takes away what is at a location; the root itself stays. -/
def remove : Tree → Location → Tree
  | tree, [] => tree
  | .file content, _ :: _ => .file content
  | .directory entries, [name] => .directory (entries.filter fun entry => entry.1 != name)
  | .directory entries, name :: next :: rest =>
      match entries.lookup name with
      | some child => .directory (setEntry name (child.remove (next :: rest)) entries)
      | none => .directory entries

end Tree

end DartModels.Project
