import DartModels.Cli.Run

/-
The courses that a run can take, with the session that each of them leaves.
-/

namespace DartModels.Cli

open DartModels.Dart
open DartModels.Project
open DartModels.Schema

/-! Steps of runs -/

section Steps

variable {Answer Next : Type} (session : Session)

theorem run_get : (get : Run Session).run.run session = (.ok session, session) := rfl

/-- An error ends a run in the session that it has reached. -/
theorem run_bind (first : Run Answer) (next : Answer → Run Next) :
    (first >>= next).run.run session =
      match first.run.run session with
      | (.ok answer, reached) => (next answer).run.run reached
      | (.error error, reached) => (.error error, reached) := by
  change (match first session with
      | (result, reached) => ExceptT.bindCont next result reached) =
    match first session with
      | (.ok answer, reached) => (next answer).run.run reached
      | (.error error, reached) => (.error error, reached)
  cases first session with
  | mk result reached => cases result <;> rfl

theorem run_ofExcept (result : Except RunError Answer) :
    (ofExcept result).run.run session = (result, session) := by
  cases result <;> rfl

theorem run_record (lines : List LogLine) :
    (record lines).run.run session = (.ok (), { session with log := session.log ++ lines }) := rfl

theorem run_printLine (line : String) :
    (printLine line).run.run session =
      (.ok (), { session with printed := session.printed ++ [line] }) := rfl

theorem run_putTree (tree : Tree) :
    (putTree tree).run.run session = (.ok (), { session with tree := tree }) := rfl

/-! Stages of a run -/

theorem run_findProject (inputs : Inputs) :
    (findProject inputs).run.run session =
      match projectRoot? session.tree inputs.outputDirectory with
      | .error error => (.error (.inaccessible error), session)
      | .ok none => (.error .noProjectRoot, session)
      | .ok (some root) => (.ok root, session) := by
  simp only [findProject, run_bind, run_get, run_ofExcept]
  cases projectRoot? session.tree inputs.outputDirectory with
  | error error => rfl
  | ok root? => cases root? <;> rfl

/-- The log of the creation of a converter module. -/
def creationLog (root : Location) (created : Bool) : List LogLine :=
  if created then [LogLine.ofProjectEvent (.converterCreated (converterLocation root))] else []

theorem run_prepareConverter (inputs : Inputs) (root : Location) :
    (prepareConverter inputs root).run.run session =
      match ensureConverter session.tree root with
      | (.error error, after) => (.error (.noConverter error), { session with tree := after })
      | (.ok created, after) =>
          (.ok (Location.relativePath inputs.outputDirectory (converterLocation root)),
            { session with tree := after, log := session.log ++ creationLog root created }) := by
  simp only [prepareConverter, run_bind, run_get, run_ofExcept, run_putTree]
  cases ensureConverter session.tree root with
  | mk result after =>
      cases result with
      | error error => rfl
      | ok created =>
          cases created with
          | true => rfl
          | false =>
              have unnoted : session.log ++ creationLog root false = session.log :=
                List.append_nil _
              dsimp only
              rw [unnoted]
              rfl

theorem run_generateSource (job : Job) (converterImport : String) :
    (generateSource job converterImport).run.run session =
      let inference := (Sample.decoded job.document).modelFile job.config job.overrides
        job.className converterImport
      let reached :=
        { session with log := session.log ++ inference.notes.map LogLine.ofSchemaEvent }
      match inference.result with
      | .error failure => (.error (.notInferred failure), reached)
      | .ok file => (.ok (source file), reached) := by
  simp only [generateSource, run_bind, run_record, run_ofExcept]
  generalize (Sample.decoded job.document).modelFile job.config job.overrides job.className
    converterImport = inference
  cases inference.result <;> rfl

theorem run_writeSource (inputs : Inputs) (job : Job) (text : String) :
    (writeSource inputs job text).run.run session =
      let target := outputLocation inputs job
      match writeOutput (outputMode inputs) true target text session.tree with
      | (.error error, after) =>
          (.error (.notWritten target.name error), { session with tree := after })
      | (.ok (), after) =>
          (.ok (), { session with
            tree := after
            log := session.log ++ [LogLine.ofProjectEvent (.outputWritten target)]
            printed := session.printed ++ ["Generated " ++ target.name] }) := by
  simp only [writeSource, run_bind, run_get, run_ofExcept, run_putTree]
  cases writeOutput (outputMode inputs) true (outputLocation inputs job) text session.tree with
  | mk result after => cases result <;> rfl

theorem run_build (dart : Option BuildResult) (root : Location) :
    (build dart root).run.run session =
      let started := { session with
        log := session.log ++ [LogLine.ofProjectEvent (.buildStarted root)]
        printed := session.printed ++ ["Running build_runner..."]
        builds := session.builds ++ [root] }
      match checkBuild dart with
      | .error error => (.error (.buildFailed error), started)
      | .ok () =>
          (.ok (), { started with printed := started.printed ++ ["build_runner completed."] }) := by
  simp only [build, run_bind, run_printLine, recordEvent, run_record, run_ofExcept]
  cases checkBuild dart <;> rfl

end Steps

/-- A run up to its generation: its inputs are read, its project is found, and the converter
module is there. -/
structure Prepared (inputs : Inputs) (tree : Tree) where
  job : Job
  root : Location
  created : Bool
  prepared : Tree
  read : readJob tree inputs = .ok job
  found : projectRoot? tree inputs.outputDirectory = .ok (some root)
  ensured : ensureConverter tree root = (.ok created, prepared)

namespace Prepared

variable {inputs : Inputs} {tree : Tree} (preparation : Prepared inputs tree)

/-- The inference of the model file for the job. -/
def inference : Inference ModelFile :=
  (Sample.decoded preparation.job.document).modelFile preparation.job.config
    preparation.job.overrides preparation.job.className
    (Location.relativePath inputs.outputDirectory (converterLocation preparation.root))

def log : List LogLine :=
  creationLog preparation.root preparation.created ++
    preparation.inference.notes.map LogLine.ofSchemaEvent

def target : Location := outputLocation inputs preparation.job

/-- The writing of a text as the output. -/
def writing (text : String) : Except OutputError Unit × Tree :=
  writeOutput (outputMode inputs) true preparation.target text preparation.prepared

end Prepared

/-- A run that has written its output. -/
structure Written (inputs : Inputs) (tree : Tree) extends Prepared inputs tree where
  file : ModelFile
  after : Tree
  inferred : toPrepared.inference.result = .ok file
  written : toPrepared.writing (source file) = (.ok (), after)

namespace Written

variable {inputs : Inputs} {tree : Tree} (completion : Written inputs tree)

def announcement : String := "Generated " ++ completion.target.name

def log : List LogLine :=
  completion.toPrepared.log ++ [LogLine.ofProjectEvent (.outputWritten completion.target)]

def buildLog : List LogLine :=
  completion.log ++ [LogLine.ofProjectEvent (.buildStarted completion.root)]

end Written

/-- How a run ends and the session that it leaves. -/
inductive Course (dart : Option BuildResult) (inputs : Inputs) (tree : Tree) :
    Except RunError Unit × Session → Prop
  | unread {error : RunError} (failed : readJob tree inputs = .error error) :
      Course dart inputs tree (.error error, Session.start tree)
  | unsearched {error : FileError}
      (failed : projectRoot? tree inputs.outputDirectory = .error error) :
      Course dart inputs tree (.error (.inaccessible error), Session.start tree)
  | rootless (missing : projectRoot? tree inputs.outputDirectory = .ok none) :
      Course dart inputs tree (.error .noProjectRoot, Session.start tree)
  | unprepared {root : Location} {error : FileError} {after : Tree}
      (found : projectRoot? tree inputs.outputDirectory = .ok (some root))
      (failed : ensureConverter tree root = (.error error, after)) :
      Course dart inputs tree (.error (.noConverter error), ⟨after, [], [], []⟩)
  | notInferred (preparation : Prepared inputs tree) {failure : Schema.Failure}
      (failed : preparation.inference.result = .error failure) :
      Course dart inputs tree
        (.error (.notInferred failure), ⟨preparation.prepared, preparation.log, [], []⟩)
  | notWritten (preparation : Prepared inputs tree) {file : ModelFile} {error : OutputError}
      {after : Tree} (inferred : preparation.inference.result = .ok file)
      (failed : preparation.writing (source file) = (.error error, after)) :
      Course dart inputs tree
        (.error (.notWritten preparation.target.name error), ⟨after, preparation.log, [], []⟩)
  | written (completion : Written inputs tree) (unasked : inputs.settings.buildRunner = false) :
      Course dart inputs tree
        (.ok (), ⟨completion.after, completion.log, [completion.announcement], []⟩)
  | notBuilt (completion : Written inputs tree) {error : BuildError}
      (asked : inputs.settings.buildRunner = true) (failed : checkBuild dart = .error error) :
      Course dart inputs tree
        (.error (.buildFailed error), ⟨completion.after, completion.buildLog,
          [completion.announcement, "Running build_runner..."], [completion.root]⟩)
  | built (completion : Written inputs tree) (asked : inputs.settings.buildRunner = true)
      (passed : checkBuild dart = .ok ()) :
      Course dart inputs tree
        (.ok (), ⟨completion.after, completion.buildLog,
          [completion.announcement, "Running build_runner...", "build_runner completed."],
          [completion.root]⟩)

/-- A run that has written its output may start a build. -/
theorem course_of_written (dart : Option BuildResult) {inputs : Inputs} {tree : Tree}
    (completion : Written inputs tree) :
    Course dart inputs tree
      ((if inputs.settings.buildRunner then build dart completion.root else pure () :
        Run Unit).run.run
          ⟨completion.after, completion.log, [completion.announcement], []⟩) := by
  cases asked : inputs.settings.buildRunner with
  | false => exact .written completion asked
  | true =>
      rw [if_pos rfl, run_build]
      dsimp only
      cases ended : checkBuild dart with
      | error error => exact .notBuilt completion asked ended
      | ok _ => exact .built completion asked ended

/-- A prepared run generates its source and writes it. -/
theorem course_of_prepared (dart : Option BuildResult) {inputs : Inputs} {tree : Tree}
    (preparation : Prepared inputs tree) :
    Course dart inputs tree
      ((do
        let text ← generateSource preparation.job
          (Location.relativePath inputs.outputDirectory (converterLocation preparation.root))
        writeSource inputs preparation.job text
        if inputs.settings.buildRunner then build dart preparation.root : Run Unit).run.run
          ⟨preparation.prepared, creationLog preparation.root preparation.created, [], []⟩) := by
  rw [run_bind, run_generateSource]
  cases inferred : preparation.inference.result with
  | error failure =>
      have course : Course dart inputs tree _ := .notInferred preparation inferred
      rw [Prepared.inference] at inferred
      dsimp only
      rw [inferred]
      exact course
  | ok file =>
      -- The run spells out what `inference` and `writing` abbreviate.
      have generated := inferred
      rw [Prepared.inference] at generated
      dsimp only
      rw [generated]
      dsimp only
      rw [run_bind, run_writeSource]
      dsimp only
      cases written : preparation.writing (source file) with
      | mk result after =>
          have wrote := written
          rw [Prepared.writing, Prepared.target] at wrote
          rw [wrote]
          cases result with
          | error error => exact .notWritten preparation inferred written
          | ok _ => exact course_of_written dart ⟨preparation, file, after, inferred, written⟩

/-- Every run takes one of the courses. -/
theorem course_of_run (dart : Option BuildResult) (inputs : Inputs) (tree : Tree) :
    Course dart inputs tree ((run dart inputs).run.run (Session.start tree)) := by
  rw [run, run_bind, run_get]
  dsimp only
  rw [run_bind, run_ofExcept]
  cases read : readJob tree inputs with
  | error error =>
      dsimp only [Session.start]
      rw [read]
      exact .unread read
  | ok job =>
      dsimp only [Session.start]
      rw [read]
      dsimp only
      rw [run_bind, run_findProject]
      dsimp only
      cases found : projectRoot? tree inputs.outputDirectory with
      | error error => exact .unsearched found
      | ok root? =>
          cases root? with
          | none => exact .rootless found
          | some root =>
              dsimp only
              rw [run_bind, run_prepareConverter]
              dsimp only
              cases ensured : ensureConverter tree root with
              | mk result prepared =>
                  cases result with
                  | error error => exact .unprepared found ensured
                  | ok created =>
                      exact course_of_prepared dart
                        ⟨job, root, created, prepared, read, found, ensured⟩

/-! Outcomes of runs -/

section Outcomes

variable (verbose : Bool) (ended : Except RunError Unit × Session)

theorem session_ofRun : (Outcome.ofRun verbose ended).session = ended.2 := by
  obtain ⟨result, session⟩ := ended
  cases result <;> rfl

theorem exitCode_ofRun :
    (Outcome.ofRun verbose ended).exitCode = if ended.1.isOk then 0 else 1 := by
  obtain ⟨result, session⟩ := ended
  cases result <;> rfl

variable {ended}

theorem ending_ofRun {error : RunError} (failed : ended.1 = .error error) :
    (Outcome.ofRun verbose ended).ending = .failed error := by
  obtain ⟨result, session⟩ := ended
  cases failed
  rfl

end Outcomes

/-- With complete inputs the command is a run. -/
theorem runCommand_of_inputs {dart : Option BuildResult} {workingDirectory : Location}
    {tree : Tree} {arguments : List String} {request : Request} {inputs : Inputs}
    (requested : Request.ofArguments arguments = some request)
    (given : request.inputs workingDirectory tree = .ok inputs) :
    runCommand dart workingDirectory tree arguments =
      Outcome.ofRun inputs.settings.verbose ((run dart inputs).run.run (Session.start tree)) := by
  rw [runCommand, requested]
  dsimp only
  rw [given]

end DartModels.Cli
