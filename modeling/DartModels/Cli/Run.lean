import DartModels.Cli.Job
import DartModels.Cli.LogLine
import DartModels.Dart.Source
import DartModels.Schema.Generate
import DartModels.Text.ControlSequence
import DartModels.Text.Parts

/-
Runs of the command on a file tree.
-/

namespace DartModels.Cli

open DartModels.Dart
open DartModels.Name
open DartModels.Project
open DartModels.Schema
open DartModels.Text

/-- What a run changes and shows. -/
structure Session where
  tree : Tree
  log : List LogLine
  printed : List String
  builds : List Location

def Session.start (tree : Tree) : Session := ⟨tree, [], [], []⟩

/-- A run goes on in a session until an error ends it; the session stays. -/
abbrev Run := ExceptT RunError (StateM Session)

def ofExcept {Answer : Type} : Except RunError Answer → Run Answer
  | .ok answer => pure answer
  | .error error => throw error

def record (lines : List LogLine) : Run Unit :=
  modify fun session => { session with log := session.log ++ lines }

def recordEvent (event : Project.Event) : Run Unit :=
  record [LogLine.ofProjectEvent event]

def printLine (line : String) : Run Unit :=
  modify fun session => { session with printed := session.printed ++ [line] }

def putTree (tree : Tree) : Run Unit :=
  modify fun session => { session with tree := tree }

/-- Finds the project that the output belongs to. -/
def findProject (inputs : Inputs) : Run Location := do
  let found := projectRoot? (← get).tree inputs.outputDirectory
  match ← ofExcept (found.mapError .inaccessible) with
  | some root => return root
  | none => throw .noProjectRoot

/-- Makes sure of the converter module and answers how the output imports it. -/
def prepareConverter (inputs : Inputs) (root : Location) : Run String := do
  let location := converterLocation root
  let (result, tree) := ensureConverter (← get).tree root
  putTree tree
  if ← ofExcept (result.mapError .noConverter) then recordEvent (.converterCreated location)
  return Location.relativePath inputs.outputDirectory location

/-- The source text for a job, with the log of its inference. -/
def generateSource (job : Job) (converterImport : String) : Run String := do
  let inference :=
    (Sample.decoded job.document).modelFile job.config job.overrides job.className
      converterImport
  record (inference.notes.map LogLine.ofSchemaEvent)
  let file ← ofExcept (inference.result.mapError .notInferred)
  return source file

def outputMode (inputs : Inputs) : OutputMode :=
  if inputs.settings.force then .force else .errorIfExists

def outputLocation (inputs : Inputs) (job : Job) : Location :=
  inputs.outputDirectory ++ [fileName job.className]

/-- Writes the output and says so. -/
def writeSource (inputs : Inputs) (job : Job) (text : String) : Run Unit := do
  let target := outputLocation inputs job
  let (result, tree) := writeOutput (outputMode inputs) true target text (← get).tree
  putTree tree
  ofExcept (result.mapError (.notWritten target.name))
  recordEvent (.outputWritten target)
  printLine ("Generated " ++ target.name)

/-- Starts the build in the project root; `dart` is how the command would end there. -/
def build (dart : Option BuildResult) (root : Location) : Run Unit := do
  printLine "Running build_runner..."
  recordEvent (.buildStarted root)
  modify fun session => { session with builds := session.builds ++ [root] }
  ofExcept ((checkBuild dart).mapError .buildFailed)
  printLine "build_runner completed."

/-- A run reads its inputs, prepares the project, writes the output and may start a build. -/
def run (dart : Option BuildResult) (inputs : Inputs) : Run Unit := do
  let job ← ofExcept (readJob (← get).tree inputs)
  let root ← findProject inputs
  let converterImport ← prepareConverter inputs root
  let text ← generateSource job converterImport
  writeSource inputs job text
  if inputs.settings.buildRunner then build dart root

inductive Ending where
  | succeeded
  | failed (error : RunError)
  | misused

/-- How the command ended, and the session that it leaves. -/
structure Outcome where
  ending : Ending
  verbose : Bool
  session : Session

namespace Outcome

def ofRun (verbose : Bool) (result : Except RunError Unit × Session) : Outcome :=
  match result with
  | (.ok (), session) => ⟨.succeeded, verbose, session⟩
  | (.error error, session) => ⟨.failed error, verbose, session⟩

def exitCode (outcome : Outcome) : Nat :=
  match outcome.ending with
  | .succeeded => 0
  | .failed _ => 1
  | .misused => 2

/-- The lines that the run printed. -/
def standardOutput (outcome : Outcome) : String :=
  withoutSequences (unlines outcome.session.printed)

def shownLog (outcome : Outcome) : String :=
  String.join ((outcome.session.log.filter (LogLine.isShown outcome.verbose)).map LogLine.text)

/-- The report of an error, if the run reports it itself. -/
def report (outcome : Outcome) : String :=
  match outcome.ending with
  | .failed error =>
      if error.isReported then withoutSequences ("Error: " ++ error.message ++ "\n") else ""
  | _ => ""

/-- The log and the report after it. -/
def standardError (outcome : Outcome) : String := outcome.shownLog ++ outcome.report

/-- The error that escaped from the run. -/
def escaped? (outcome : Outcome) : Option RunError :=
  match outcome.ending with
  | .failed error => if error.isReported then none else some error
  | _ => none

end Outcome

/-- Runs the command with arguments in a working directory; wrong arguments change nothing. -/
def runCommand (dart : Option BuildResult) (workingDirectory : Location) (tree : Tree)
    (arguments : List String) : Outcome :=
  match Request.ofArguments arguments with
  | none => ⟨.misused, false, Session.start tree⟩
  | some request =>
      match request.inputs workingDirectory tree with
      | .error .misused => ⟨.misused, request.settings.verbose, Session.start tree⟩
      | .error (.failed error) => ⟨.failed error, request.settings.verbose, Session.start tree⟩
      | .ok inputs =>
          Outcome.ofRun inputs.settings.verbose ((run dart inputs).run.run (Session.start tree))

end DartModels.Cli
