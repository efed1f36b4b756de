import DartModels.Proofs.Cli.Containment
import DartModels.Proofs.Cli.Effects
import DartModels.Proofs.Cli.ForceWord

/-
A run that is repeated on the tree it left: by force it writes the same output, and without force
it is refused; the tree stays.
-/

namespace DartModels.Cli

open DartModels.Dart
open DartModels.Document
open DartModels.Name
open DartModels.Options
open DartModels.Project
open DartModels.Project.Tree
open DartModels.Schema

variable {inputs : Inputs} {tree after : Tree} {location : Location}

/-! What is read again -/

theorem content_eq_ok_iff {content : Content} :
    tree.content location = .ok content ↔ tree.fileAt? location = some content := by
  rw [Tree.content, fileAt?]
  split
  next own found => simp [found]
  next entries found => simp [found]
  next missing => simp [missing]

/-- The file at a location is the same if there is one. -/
def SameFile (tree after : Tree) (location : Location) : Prop :=
  ∀ content, tree.fileAt? location = some content → after.fileAt? location = some content

theorem readText_again {text : String} (same : SameFile tree after location)
    (read : readText tree location = .ok text) : readText after location = .ok text := by
  obtain ⟨content, found, decoded⟩ := bind_eq_ok.mp read
  have there := same content (content_eq_ok_iff.mp (eq_ok_of_mapError found))
  refine bind_eq_ok.mpr ⟨content, ?_, decoded⟩
  rw [content_eq_ok_iff.mpr there]
  rfl

theorem readDocument_again {document : Value} (same : SameFile tree after location)
    (read : readDocument tree location = .ok document) :
    readDocument after location = .ok document := by
  obtain ⟨text, found, decoded⟩ := bind_eq_ok.mp read
  exact bind_eq_ok.mpr ⟨text, readText_again same found, decoded⟩

theorem readOptionFile_again {value : Value} (same : SameFile tree after location)
    (read : readOptionFile tree location = .ok value) :
    readOptionFile after location = .ok value := by
  obtain ⟨text, found, decoded⟩ := bind_eq_ok.mp read
  exact bind_eq_ok.mpr ⟨text, readText_again same found, decoded⟩

theorem jobConfig_again {config : Config} (force : Bool)
    (same : ∀ location ∈ inputs.config, SameFile tree after location)
    (read : jobConfig tree inputs = .ok config) :
    jobConfig after (inputs.withForce force) = .ok config := by
  rw [jobConfig] at read ⊢
  cases named : inputs.config with
  | none =>
      rw [named] at read
      rw [Inputs.withForce, named]
      exact read
  | some location =>
      rw [named] at read
      rw [Inputs.withForce, named]
      obtain ⟨own, found, applied⟩ := bind_eq_ok.mp read
      obtain ⟨value, held, made⟩ := bind_eq_ok.mp found
      have again := readOptionFile_again (same location named) held
      exact bind_eq_ok.mpr ⟨own, bind_eq_ok.mpr ⟨value, again, made⟩, applied⟩

theorem jobOverrides_again {overrides : List Override} (force : Bool)
    (same : ∀ location ∈ inputs.overrides, SameFile tree after location)
    (read : jobOverrides tree inputs = .ok overrides) :
    jobOverrides after (inputs.withForce force) = .ok overrides := by
  rw [jobOverrides] at read ⊢
  cases named : inputs.overrides with
  | none =>
      rw [named] at read
      rw [Inputs.withForce, named]
      exact read
  | some location =>
      rw [named] at read
      rw [Inputs.withForce, named]
      obtain ⟨value, held, made⟩ := bind_eq_ok.mp read
      exact bind_eq_ok.mpr ⟨value, readOptionFile_again (same location named) held, made⟩

/-- The job is the same where its files are, with force and without. -/
theorem readJob_again {job : Job} (force : Bool)
    (same : ∀ location, inputs.Reads location → SameFile tree after location)
    (read : readJob tree inputs = .ok job) :
    readJob after (inputs.withForce force) = .ok job := by
  obtain ⟨document, documented, read⟩ := bind_eq_ok.mp read
  obtain ⟨className, named, read⟩ := bind_eq_ok.mp read
  obtain ⟨config, configured, read⟩ := bind_eq_ok.mp read
  obtain ⟨overrides, overridden, read⟩ := bind_eq_ok.mp read
  refine bind_eq_ok.mpr ⟨document, readDocument_again (same _ .document) documented, ?_⟩
  refine bind_eq_ok.mpr ⟨className, named, ?_⟩
  refine bind_eq_ok.mpr ⟨config, jobConfig_again force ?_ configured, ?_⟩
  · exact fun location named => same location (.config named)
  refine bind_eq_ok.mpr ⟨overrides, jobOverrides_again force ?_ overridden, read⟩
  exact fun location named => same location (.overrides named)

/-! The tree that a run leaves -/

theorem pubspecName_ne (stem : String) : pubspecName ≠ stem ++ ".dart" := by
  intro same
  have last := congrArg (fun text : String => text.toList.getLast?) same
  simp only [String.toList_append, List.getLast?_append] at last
  cases last

namespace Written

variable (completion : Written inputs tree)

theorem steps :
    ∃ prepared directory, OutputSteps (outputMode inputs) true completion.target
      (source completion.file) completion.prepared prepared directory completion.after :=
  writeOutput_steps completion.written

theorem target_parent : completion.target.parent = inputs.outputDirectory := by
  rw [completion.target_eq, parent_append]

/-- Directories and files that were there are there. -/
theorem keeps (settled : ".." ∉ inputs.outputDirectory) : Keeps tree completion.after := by
  obtain ⟨prepared, directory, steps⟩ := completion.steps
  exact (ensureConverter_eq_ok (completion.settled_root settled) completion.ensured).1.trans
    steps.keeps

theorem outputDirectory_reached (settled : ".." ∉ inputs.outputDirectory) :
    completion.after.place inputs.outputDirectory = .ok inputs.outputDirectory ∧
      completion.after.isDirectory inputs.outputDirectory = true := by
  obtain ⟨prepared, directory, steps⟩ := completion.steps
  have reached := steps.directory_eq
  rw [completion.target_parent] at reached
  exact reached settled

/-- A changed file is the output or the converter module, which was not there. -/
theorem fileAt?_of_ne (settled : ".." ∉ inputs.outputDirectory)
    (apart : location ≠ completion.target) : SameFile tree completion.after location := by
  intro content there
  rw [completion.fileAt?_after settled, if_neg apart]
  exact (completion.onlyConverter settled).fileAt?_eq there

/-- No pubspec file comes or goes. -/
theorem pubspec_unchanged (settled : ".." ∉ inputs.outputDirectory) (directory : Location) :
    completion.after.fileAt? (directory ++ [pubspecName]) =
      tree.fileAt? (directory ++ [pubspecName]) := by
  rw [completion.fileAt?_after settled]
  split
  next same =>
    rw [completion.target_eq] at same
    have last := congrArg List.getLast? same
    rw [List.getLast?_concat, List.getLast?_concat, Option.some_inj] at last
    exact absurd last (pubspecName_ne _)
  next =>
    by_contra changed
    obtain ⟨-, converter⟩ := completion.onlyConverter settled _ changed
    rw [completion.converter?_eq, Option.some_inj] at converter
    have last := congrArg List.getLast? converter
    have name : converterParts.getLast? = some ConverterModule.fileName := rfl
    rw [List.getLast?_concat, converterLocation, List.getLast?_append, name, Option.some_or,
      Option.some_inj] at last
    exact absurd last (by decide)

/-- The run is prepared for again, and there is nothing left to prepare. -/
def preparedAgain (settled : ".." ∉ inputs.outputDirectory)
    (apart : ∀ location, inputs.Reads location → location ≠ completion.target) (force : Bool) :
    Prepared (inputs.withForce force) completion.after where
  job := completion.job
  root := completion.root
  created := false
  prepared := completion.after
  read := readJob_again force
    (fun location reads => completion.fileAt?_of_ne settled (apart location reads)) completion.read
  found := by
    obtain ⟨reached, isDirectory⟩ := completion.outputDirectory_reached settled
    exact projectRoot?_again settled (completion.keeps settled) reached isDirectory
      (fun directory => by rw [completion.pubspec_unchanged settled]) completion.found
  ensured := by
    obtain ⟨prepared, directory, steps⟩ := completion.steps
    obtain ⟨-, child, there⟩ :=
      ensureConverter_eq_ok (completion.settled_root settled) completion.ensured
    obtain ⟨later, again⟩ := steps.keeps.find? there
    exact ensureConverter_of_find? again

/-- By force the same output is written over itself. -/
def writtenAgain (settled : ".." ∉ inputs.outputDirectory)
    (apart : ∀ location, inputs.Reads location → location ≠ completion.target) :
    Written (inputs.withForce true) completion.after where
  toPrepared := completion.preparedAgain settled apart true
  file := completion.file
  after := completion.after
  inferred := completion.inferred
  written := by
    obtain ⟨prepared, directory, steps⟩ := completion.steps
    exact writeOutput_again steps

end Written

/-! Runs that are repeated -/

/-- What is printed once a build is asked for. -/
def buildLines (dart : Option BuildResult) : List String :=
  match checkBuild dart with
  | .error _ => ["Running build_runner..."]
  | .ok () => ["Running build_runner...", "build_runner completed."]

/-- How a run ends once its output is written. -/
def buildResult (dart : Option BuildResult) (inputs : Inputs) : Except RunError Unit :=
  if inputs.settings.buildRunner then (checkBuild dart).mapError .buildFailed else .ok ()

variable {dart : Option BuildResult} {ended : Except RunError Unit × Session}

/-- A run that can write its output does so, and then only its build may fail. -/
theorem Course.of_written (completion : Written inputs tree)
    (course : Course dart inputs tree ended) :
    ended.1 = buildResult dart inputs ∧ ended.2.tree = completion.after ∧
      ended.2.printed = completion.announcement ::
        if inputs.settings.buildRunner then buildLines dart else [] := by
  cases course with
  | unread failed => cases failed.symm.trans completion.read
  | unsearched failed => cases failed.symm.trans completion.found
  | rootless missing => cases missing.symm.trans completion.found
  | unprepared found failed =>
      cases found.symm.trans completion.found
      cases failed.symm.trans completion.ensured
  | notInferred preparation failed =>
      cases Subsingleton.elim preparation completion.toPrepared
      cases failed.symm.trans completion.inferred
  | notWritten preparation inferred failed =>
      cases Subsingleton.elim preparation completion.toPrepared
      cases inferred.symm.trans completion.inferred
      cases failed.symm.trans completion.written
  | written other unasked =>
      cases Subsingleton.elim completion other
      rw [buildResult, unasked]
      exact ⟨rfl, rfl, rfl⟩
  | notBuilt other asked failed =>
      cases Subsingleton.elim completion other
      rw [buildResult, buildLines, asked, failed]
      exact ⟨rfl, rfl, rfl⟩
  | built other asked passed =>
      cases Subsingleton.elim completion other
      rw [buildResult, buildLines, asked, passed]
      exact ⟨rfl, rfl, rfl⟩

/-- A run whose output is refused ends there. -/
theorem Course.of_notWritten (preparation : Prepared inputs tree) {file : ModelFile}
    {error : OutputError} (inferred : preparation.inference.result = .ok file)
    (failed : preparation.writing (source file) = (.error error, after))
    (course : Course dart inputs tree ended) :
    ended.1 = .error (.notWritten preparation.target.name error) ∧ ended.2.tree = after := by
  cases course with
  | unread unread => cases unread.symm.trans preparation.read
  | unsearched unsearched => cases unsearched.symm.trans preparation.found
  | rootless missing => cases missing.symm.trans preparation.found
  | unprepared found unprepared =>
      cases found.symm.trans preparation.found
      cases unprepared.symm.trans preparation.ensured
  | notInferred other uninferred =>
      cases Subsingleton.elim preparation other
      cases uninferred.symm.trans inferred
  | notWritten other found refused =>
      cases Subsingleton.elim preparation other
      cases found.symm.trans inferred
      cases refused.symm.trans failed
      exact ⟨rfl, rfl⟩
  | written completion | notBuilt completion | built completion =>
      cases Subsingleton.elim preparation completion.toPrepared
      cases completion.inferred.symm.trans inferred
      cases completion.written.symm.trans failed

/-- A run that ends without an error has written its output. -/
theorem Course.completion (course : Course dart inputs tree ended) (ok : ended.1 = .ok ()) :
    Nonempty (Written inputs tree) := by
  cases course with
  | written completion => exact ⟨completion⟩
  | built completion => exact ⟨completion⟩
  | _ => cases ok

/-! Commands that are repeated -/

variable {workingDirectory : Location} {arguments : List String} {request : Request}

/-- A command that succeeds has complete inputs and has written its output, and its build has not
failed. -/
theorem written_of_exitCode
    (succeeded : (runCommand dart workingDirectory tree arguments).exitCode = 0) :
    ∃ request inputs, Request.ofArguments arguments = some request ∧
      request.inputs workingDirectory tree = .ok inputs ∧ Nonempty (Written inputs tree) ∧
        buildResult dart inputs = .ok () := by
  cases requested : Request.ofArguments arguments with
  | none =>
      rw [runCommand, requested] at succeeded
      cases succeeded
  | some request =>
      cases given : request.inputs workingDirectory tree with
      | error error =>
          rw [runCommand, requested] at succeeded
          dsimp only at succeeded
          rw [given] at succeeded
          cases error <;> cases succeeded
      | ok inputs =>
          rw [runCommand_of_inputs requested given, exitCode_ofRun] at succeeded
          have course := course_of_run dart inputs tree
          generalize (run dart inputs).run.run (Session.start tree) = ended at course succeeded
          obtain ⟨result, session⟩ := ended
          cases result with
          | error error => cases succeeded
          | ok _ =>
              obtain ⟨completion⟩ := course.completion rfl
              obtain ⟨built, -⟩ := course.of_written completion
              exact ⟨request, inputs, rfl, given, ⟨completion⟩, built.symm⟩

/-- What a command leaves once it has written its output. -/
theorem runCommand_of_written (completion : Written inputs tree)
    (requested : Request.ofArguments arguments = some request)
    (given : request.inputs workingDirectory tree = .ok inputs)
    (built : buildResult dart inputs = .ok ()) :
    let outcome := runCommand dart workingDirectory tree arguments
    outcome.exitCode = 0 ∧ outcome.session.tree = completion.after ∧
      outcome.session.printed = completion.announcement ::
        if inputs.settings.buildRunner then buildLines dart else [] := by
  obtain ⟨result, left, printed⟩ := (course_of_run dart inputs tree).of_written completion
  intro outcome
  have same : outcome = _ := runCommand_of_inputs requested given
  rw [same, exitCode_ofRun, session_ofRun, result, built]
  exact ⟨rfl, left, printed⟩

theorem commandInputs?_eq (requested : Request.ofArguments arguments = some request)
    (given : request.inputs workingDirectory tree = .ok inputs) :
    commandInputs? workingDirectory tree arguments = some inputs := by
  rw [commandInputs?, requested]
  exact congrArg Except.toOption given

/-- A command that has succeeded can be repeated unless its output is one of its inputs. By force
it succeeds again with the same lines, and without force it is refused for the output that is
there; the tree stays the same both times. -/
theorem runCommand_repeated (dart : Option BuildResult) (workingDirectory : Location)
    (tree : Tree) (arguments : List String)
    (succeeded : (runCommand dart workingDirectory tree arguments).exitCode = 0)
    (apart : ∀ inputs, commandInputs? workingDirectory tree arguments = some inputs →
      ∀ location, inputs.Reads location → inputs.output? ≠ some location) :
    let first := runCommand dart workingDirectory tree arguments
    let forced := runCommand dart workingDirectory first.session.tree ("--force" :: arguments)
    let refused := runCommand dart workingDirectory first.session.tree (withoutForce arguments)
    (forced.exitCode = 0 ∧ forced.standardOutput = first.standardOutput ∧
        forced.session.tree = first.session.tree) ∧
      refused.exitCode = 1 ∧
        (∃ inputs output, commandInputs? workingDirectory tree arguments = some inputs ∧
          inputs.output? = some output ∧
          refused.ending = .failed (.notWritten output.name (.outputExists output))) ∧
        refused.session.tree = first.session.tree := by
  obtain ⟨request, inputs, requested, given, ⟨completion⟩, built⟩ := written_of_exitCode succeeded
  have complete := commandInputs?_eq requested given
  obtain ⟨-, settled⟩ := inputs_eq_ok given
  have unread : ∀ location, inputs.Reads location → location ≠ completion.target := by
    rintro location reads rfl
    exact apart inputs complete _ reads completion.output?_eq
  have isDirectory := (completion.outputDirectory_reached settled).2
  have again (force : Bool) := inputs_again (completion.keeps settled) isDirectory given force
  obtain ⟨-, left, printed⟩ := runCommand_of_written completion requested given built
  dsimp only
  rw [left]
  constructor
  · have word : Request.ofArguments ("--force" :: arguments) = some (request.withForce true) := by
      rw [ofArguments_force_cons, requested]
      rfl
    obtain ⟨code, leftAgain, printedAgain⟩ :=
      runCommand_of_written (completion.writtenAgain settled unread) word (again true) built
    refine ⟨code, ?_, leftAgain⟩
    rw [Outcome.standardOutput, printedAgain, Outcome.standardOutput, printed]
    rfl
  · have wordless : Request.ofArguments (withoutForce arguments) =
        some (request.withForce false) := by
      rw [ofArguments_withoutForce, requested]
      rfl
    obtain ⟨prepared, directory, steps⟩ := completion.steps
    have refused := writeOutput_again_unforced steps (source completion.file)
    obtain ⟨result, leftAgain⟩ := (course_of_run dart _ completion.after).of_notWritten
      (completion.preparedAgain settled unread false) completion.inferred refused
    rw [runCommand_of_inputs wordless (again false), exitCode_ofRun, session_ofRun, result]
    exact ⟨rfl, ⟨inputs, completion.target, complete, completion.output?_eq,
      ending_ofRun _ result⟩, leftAgain⟩

/-- The document of the command is its only input, and its output is another file. -/
theorem apart_userTree (inputs : Inputs)
    (given : commandInputs? [] userTree ["user.json", "lib"] = some inputs) (location : Location)
    (reads : inputs.Reads location) : inputs.output? ≠ some location := by
  have complete : commandInputs? [] userTree ["user.json", "lib"] = some userInputs := rfl
  obtain rfl := Option.some.inj (complete.symm.trans given)
  cases reads with
  | document =>
      rw [userPreparation.output?_eq]
      decide
  | config named | overrides named => cases named

theorem runCommand_repeated_userTree :
    let first := runCommand none [] userTree ["user.json", "lib"]
    let forced := runCommand none [] first.session.tree ["--force", "user.json", "lib"]
    let refused := runCommand none [] first.session.tree ["user.json", "lib"]
    first.exitCode = 0 ∧ (forced.exitCode = 0 ∧ forced.session.tree = first.session.tree) ∧
      refused.exitCode = 1 ∧ refused.session.tree = first.session.tree := by
  have requested : Request.ofArguments ["user.json", "lib"] =
      some ⟨Settings.standard, some "user.json", some "lib", []⟩ := rfl
  have given : Request.inputs [] userTree ⟨Settings.standard, some "user.json", some "lib", []⟩ =
      .ok userInputs := rfl
  have succeeded : (runCommand none [] userTree ["user.json", "lib"]).exitCode = 0 :=
    (runCommand_of_written userCompletion requested given rfl).1
  have wordless : withoutForce ["user.json", "lib"] = ["user.json", "lib"] :=
    withoutForce_of_notMem (by decide)
  obtain ⟨⟨code, -, same⟩, refusedCode, -, refusedSame⟩ :=
    runCommand_repeated none [] userTree ["user.json", "lib"] succeeded apart_userTree
  rw [wordless] at refusedCode refusedSame
  exact ⟨succeeded, ⟨code, same⟩, refusedCode, refusedSame⟩

end DartModels.Cli
