import DartModels.Cli.Footprint

/-
The command on the real file system.
-/

namespace DartModels.Cli

open DartModels.Project

/-- What the file system has at a location. -/
inductive Finding where
  | nothing
  | file (bytes : ByteArray)
  | directory

/-- Only a file can be read, and a location without anything is told apart from a directory. -/
def look (location : Location) : IO Finding := do
  try
    return .file (← IO.FS.readBinFile location.text)
  catch
    | .noFileOrDirectory .. => return .nothing
    | .invalidArgument .. => return .nothing
    | _ => return .directory

/-- Takes into a tree what stands on the way to a location. -/
def survey (passed : Location) (tree : Tree) : Location → IO Tree
  | [] => return tree
  | name :: rest => do
      let here := passed ++ [name]
      if tree.isFile here then return tree
      else if tree.isDirectory here then survey here tree rest
      else
        match ← look here with
        | .nothing => return tree
        | .file bytes =>
            return tree.set here (.file (Content.ofBytes (bytes.toList.map UInt8.toNat)))
        | .directory => survey here (tree.set here Tree.empty) rest

/-- Takes into a tree what stands on the way to those locations that the file system takes. -/
def surveyAll (tree : Tree) (locations : List Location) : IO Tree :=
  (locations.filter fun location => location.checkText.isOk).foldlM (survey []) tree

/-- Makes the directories above a location that a run has made. -/
def makeParents (before after : Tree) (location : Location) : IO Unit := do
  match location.parent.selfAndAbove.find? after.isDirectory with
  | some made => if !before.isDirectory made then IO.FS.createDirAll made.text
  | none => return

/-- Makes the directories and the file that a run has put at a location. -/
def carryOut (before after : Tree) (location : Location) : IO Unit := do
  makeParents before after location
  match newText? before after location with
  | some text => IO.FS.writeFile location.text text
  | none => return

def usage : String := "usage: [options] PATH OUTPUT_DIR\n"

/-- Shows what a run left to show and answers its exit code. -/
def present (outcome : Outcome) : IO UInt32 := do
  IO.print outcome.standardOutput
  IO.eprint outcome.standardError
  match outcome.ending, outcome.escaped? with
  | .misused, _ => IO.eprint usage
  | _, some error => IO.eprintln error.message
  | _, none => pure ()
  return outcome.exitCode.toUInt32

/-- Runs the command; it starts no other program, so a build ends like one that is not there. -/
def main (arguments : List String) : IO UInt32 := do
  let workingDirectory := Location.resolve [] (toString (← IO.currentDir))
  match Request.ofArguments arguments with
  | none => present (runCommand none workingDirectory Tree.empty arguments)
  | some request =>
      let named ← surveyAll Tree.empty (request.locations workingDirectory)
      match request.inputs workingDirectory named with
      | .error _ => present (runCommand none workingDirectory named arguments)
      | .ok inputs =>
          let before ← surveyAll named inputs.footprint
          let outcome := runCommand none workingDirectory before arguments
          inputs.targets.forM (carryOut before outcome.session.tree)
          present outcome

end DartModels.Cli

def main (arguments : List String) : IO UInt32 := DartModels.Cli.main arguments
