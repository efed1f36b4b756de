import DartModels.Cli.Footprint
import DartModels.Proofs.Cli.Course
import DartModels.Proofs.Cli.Request
import DartModels.Proofs.Name.FileStem
import DartModels.Proofs.Project.Flutter
import DartModels.Proofs.Project.Output
import DartModels.Proofs.Text.Avoidance

/-
What a run of the command changes, prints and starts.
-/

namespace DartModels.Project

open DartModels.Name

/-- A temporary file never has the name of a file with Dart code. -/
theorem temporaryName_ne (name stem : String) (mark : Nat) :
    temporaryName name mark ≠ stem ++ ".dart" := by
  intro same
  have last := congrArg (fun text : String => text.toList.getLast?) same
  simp only [temporaryName, String.toList_append, List.getLast?_append] at last
  cases last

theorem temporaryLocation_ne (target directory : Location) (stem : String) (mark : Nat) :
    temporaryLocation target mark ≠ directory ++ [stem ++ ".dart"] := by
  intro same
  have last := congrArg List.getLast? same
  simp only [temporaryLocation, List.getLast?_concat, Option.some_inj] at last
  exact temporaryName_ne target.name stem mark last

end DartModels.Project

namespace DartModels.Cli

open DartModels.Dart
open DartModels.Name
open DartModels.Project
open DartModels.Schema
open DartModels.Text

/-- The output of a run, if its class name is legal. -/
def Inputs.output? (inputs : Inputs) : Option Location :=
  (jobClassName inputs).toOption.map fun className =>
    inputs.outputDirectory ++ [fileName className]

/-- The converter module of the project that the output belongs to. -/
def Inputs.converter? (inputs : Inputs) (tree : Tree) : Option Location :=
  match projectRoot? tree inputs.outputDirectory with
  | .ok (some root) => some (converterLocation root)
  | _ => none

/-- No file has changed, and none is new but the converter module. -/
def OnlyConverter (inputs : Inputs) (tree after : Tree) : Prop :=
  ∀ location, after.fileAt? location ≠ tree.fileAt? location →
    tree.fileAt? location = none ∧ inputs.converter? tree = some location

/-- The printed lines. -/
def Outcome.lines (outcome : Outcome) : List String :=
  (cutAt '\n' outcome.standardOutput.toList).map String.ofList

/-- What a run on a tree may lead to: which files it keeps, changes and adds, with force and
without, what it announces and when a build starts. -/
structure Effects (inputs : Inputs) (tree : Tree) (outcome : Outcome) : Prop where
  kept : ∀ location content, tree.fileAt? location = some content →
    ∃ later, outcome.session.tree.fileAt? location = some later
  confined : ∀ location, outcome.session.tree.fileAt? location ≠ tree.fileAt? location →
    inputs.output? = some location ∨ inputs.converter? tree = some location
  unstaged : ∀ target mark, outcome.session.tree.fileAt? (temporaryLocation target mark) =
    tree.fileAt? (temporaryLocation target mark)
  silent : (∀ name, "Generated " ++ name ∉ outcome.lines) →
    OnlyConverter inputs tree outcome.session.tree
  unforced : inputs.settings.force = false → ∀ location content,
    tree.fileAt? location = some content →
      outcome.session.tree.fileAt? location = some content
  announced : ∀ name, "Generated " ++ name ∈ outcome.lines ↔
    ∃ completion : Written inputs tree, completion.target.name = name
  written : ∀ completion : Written inputs tree, inputs.output? = some completion.target ∧
    outcome.session.tree.fileAt? completion.target = some (.text (source completion.file))
  builds : outcome.session.builds = [] ∨ inputs.settings.buildRunner = true ∧
    ∃ completion : Written inputs tree, outcome.session.builds = [completion.root] ∧
      outcome.session.log = completion.buildLog
  succeeded : outcome.exitCode = 0 → Nonempty (Written inputs tree)

variable {dart : Option BuildResult} {inputs : Inputs} {tree after : Tree}

namespace OnlyConverter

theorem of_same (same : after.fileAt? = tree.fileAt?) : OnlyConverter inputs tree after :=
  fun location changed => absurd (congrFun same location) changed

theorem trans_same {later : Tree} (only : OnlyConverter inputs tree after)
    (same : later.fileAt? = after.fileAt?) : OnlyConverter inputs tree later := by
  rwa [OnlyConverter, same]

/-- A file that was there is as it was. -/
theorem fileAt?_eq (only : OnlyConverter inputs tree after) {location : Location}
    {content : Content} (there : tree.fileAt? location = some content) :
    after.fileAt? location = some content := by
  rw [← there]
  by_contra changed
  rw [(only location changed).1] at there
  cases there

end OnlyConverter

theorem readJob_className {job : Job} (read : readJob tree inputs = .ok job) :
    jobClassName inputs = .ok job.className := by
  obtain ⟨document, -, read⟩ := bind_eq_ok.mp read
  obtain ⟨className, named, read⟩ := bind_eq_ok.mp read
  obtain ⟨config, -, read⟩ := bind_eq_ok.mp read
  obtain ⟨overrides, -, read⟩ := bind_eq_ok.mp read
  cases read
  exact named

/-! The preparation -/

namespace Prepared

instance : Subsingleton (Prepared inputs tree) where
  allEq := by
    rintro ⟨job, root, created, prepared, read, found, ensured⟩
      ⟨job', root', created', prepared', read', found', ensured'⟩
    cases read.symm.trans read'
    cases found.symm.trans found'
    cases ensured.symm.trans ensured'
    rfl

variable (preparation : Prepared inputs tree)

theorem converter?_eq :
    inputs.converter? tree = some (converterLocation preparation.root) := by
  rw [Inputs.converter?, preparation.found]

theorem output?_eq : inputs.output? = some preparation.target := by
  rw [Inputs.output?, readJob_className preparation.read]
  rfl

theorem target_eq : preparation.target =
    inputs.outputDirectory ++ [fileStem preparation.job.className ++ ".dart"] := rfl

theorem target_name :
    preparation.target.name = fileStem preparation.job.className ++ ".dart" := by
  rw [target_eq, Location.name, List.getLast?_concat]
  rfl

theorem settled_target (settled : ".." ∉ inputs.outputDirectory) : ".." ∉ preparation.target := by
  rw [target_eq, List.mem_append, not_or]
  refine ⟨settled, fun member => ?_⟩
  have last := congrArg (fun text : String => text.toList.getLast?) (List.mem_singleton.mp member)
  simp at last

theorem settled_root (settled : ".." ∉ inputs.outputDirectory) : ".." ∉ preparation.root :=
  fun member => settled ((prefix_of_projectRoot? preparation.found).subset member)

theorem onlyConverter (settled : ".." ∉ inputs.outputDirectory) :
    OnlyConverter inputs tree preparation.prepared := by
  have ensured := preparation.ensured
  obtain ⟨_, _, same, -⟩ | same | ⟨after, same, fresh, changes⟩ :=
    ensureConverter_cases tree (preparation.settled_root settled)
  · rw [same] at ensured
    cases ensured
  · rw [same] at ensured
    have prepared : preparation.prepared = tree := congrArg Prod.snd ensured.symm
    rw [prepared]
    exact .of_same rfl
  · rw [same] at ensured
    have prepared : preparation.prepared = after := congrArg Prod.snd ensured.symm
    rw [prepared]
    intro location changed
    rw [changes location] at changed
    split at changed
    next here =>
      rw [here]
      exact ⟨fresh, preparation.converter?_eq⟩
    next => exact absurd rfl changed

end Prepared

/-! The output -/

namespace Written

instance : Subsingleton (Written inputs tree) where
  allEq := by
    rintro ⟨preparation, file, after, inferred, written⟩
      ⟨preparation', file', after', inferred', written'⟩
    cases Subsingleton.elim preparation preparation'
    cases inferred.symm.trans inferred'
    cases written.symm.trans written'
    rfl

variable (completion : Written inputs tree)

theorem fileAt?_after (settled : ".." ∉ inputs.outputDirectory) (location : Location) :
    completion.after.fileAt? location =
      if location = completion.target then some (.text (source completion.file))
      else completion.prepared.fileAt? location :=
  fileAt?_of_written (completion.settled_target settled)
    (by simp [Prepared.target_eq]) completion.written location

/-- Unless it is forced, an output is new. -/
theorem fileAt?_target (settled : ".." ∉ inputs.outputDirectory)
    (unforced : inputs.settings.force = false) :
    completion.prepared.fileAt? completion.target = none := by
  have written := completion.written
  rw [Prepared.writing, outputMode, unforced] at written
  exact fileAt?_of_unforced (completion.settled_target settled) written

/-- The session of a run that has written its output. -/
structure Leaves (session : Session) : Prop where
  tree : session.tree = completion.after
  printed : ∃ later, session.printed = completion.announcement :: later ∧
    later ⊆ ["Running build_runner...", "build_runner completed."]
  builds : session.builds = [] ∨ inputs.settings.buildRunner = true ∧
    session.builds = [completion.root] ∧ session.log = completion.buildLog

end Written

/-- A run that ends before its output is written. -/
structure Abandoned (inputs : Inputs) (tree : Tree) (result : Except RunError Unit)
    (session : Session) : Prop where
  unwritten : IsEmpty (Written inputs tree)
  failed : ∃ error, result = .error error
  printed : session.printed = []
  builds : session.builds = []
  files : OnlyConverter inputs tree session.tree

theorem Course.leaves_or_abandoned {result : Except RunError Unit} {session : Session}
    (settled : ".." ∉ inputs.outputDirectory) (course : Course dart inputs tree (result, session)) :
    (∃ completion : Written inputs tree, completion.Leaves session) ∨
      Abandoned inputs tree result session := by
  -- A course that stops early contradicts a completion at the stage where it stops.
  cases course with
  | unread failed =>
      refine .inr ⟨⟨fun completion => ?_⟩, ⟨_, rfl⟩, rfl, rfl, .of_same rfl⟩
      cases failed.symm.trans completion.read
  | unsearched failed =>
      refine .inr ⟨⟨fun completion => ?_⟩, ⟨_, rfl⟩, rfl, rfl, .of_same rfl⟩
      cases failed.symm.trans completion.found
  | rootless missing =>
      refine .inr ⟨⟨fun completion => ?_⟩, ⟨_, rfl⟩, rfl, rfl, .of_same rfl⟩
      cases missing.symm.trans completion.found
  | @unprepared root error after found failed =>
      refine .inr ⟨⟨fun completion => ?_⟩, ⟨_, rfl⟩, rfl, rfl, ?_⟩
      · cases found.symm.trans completion.found
        cases failed.symm.trans completion.ensured
      · have settledRoot : ".." ∉ root := fun member =>
          settled ((prefix_of_projectRoot? found).subset member)
        exact .of_same (fileAt?_of_unprepared settledRoot failed)
  | notInferred preparation failed =>
      refine .inr ⟨⟨fun completion => ?_⟩, ⟨_, rfl⟩, rfl, rfl, preparation.onlyConverter settled⟩
      cases Subsingleton.elim preparation completion.toPrepared
      cases failed.symm.trans completion.inferred
  | notWritten preparation inferred failed =>
      refine .inr ⟨⟨fun completion => ?_⟩, ⟨_, rfl⟩, rfl, rfl,
        (preparation.onlyConverter settled).trans_same (fileAt?_of_not_written failed)⟩
      cases Subsingleton.elim preparation completion.toPrepared
      cases inferred.symm.trans completion.inferred
      cases failed.symm.trans completion.written
  | written completion unasked =>
      exact .inl ⟨completion, rfl, ⟨_, rfl, List.nil_subset _⟩, .inl rfl⟩
  | notBuilt completion asked failed =>
      exact .inl ⟨completion, rfl, ⟨_, rfl, by simp⟩, .inr ⟨asked, rfl, rfl⟩⟩
  | built completion asked passed =>
      exact .inl ⟨completion, rfl, ⟨_, rfl, by simp⟩, .inr ⟨asked, rfl, rfl⟩⟩

/-! What is printed -/

theorem announcement_avoids (completion : Written inputs tree) :
    Avoids ['\n', '\x1b'] completion.announcement := by
  rw [Written.announcement, completion.target_name]
  have stem : Avoids ['\n', '\x1b'] (fileStem completion.job.className) :=
    .of_all (isIdentifierChar_fileStem _) (by decide)
  exact .append (by decide) (.append stem (by decide))

/-- Plain lines are shown as they are. -/
theorem lines_eq {outcome : Outcome}
    (plain : ∀ line ∈ outcome.session.printed, Avoids ['\n', '\x1b'] line) :
    outcome.lines = outcome.session.printed ++ [""] := by
  have free : '\x1b' ∉ (unlines outcome.session.printed).toList := by
    rw [toList_unlines, List.mem_flatMap]
    rintro ⟨line, member, inside⟩
    rcases List.mem_append.mp inside with own | feed
    · exact (plain line member).notMem (by simp) own
    · simp at feed
  rw [Outcome.lines, Outcome.standardOutput, withoutSequences_free _ free,
    cutAt_unlines _ fun line member => (plain line member).notMem (by simp)]
  simp

/-- A changed file lies apart from all temporary ones. -/
theorem temporaryLocation_unchanged {outcome : Outcome} (target : Location) (mark : Nat)
    (confined : ∀ location,
      outcome.session.tree.fileAt? location ≠ tree.fileAt? location →
        inputs.output? = some location ∨ inputs.converter? tree = some location) :
    outcome.session.tree.fileAt? (temporaryLocation target mark) =
      tree.fileAt? (temporaryLocation target mark) := by
  by_contra changed
  rcases confined _ changed with output | converter
  · obtain ⟨className, -, same⟩ := Option.map_eq_some_iff.mp output
    exact temporaryLocation_ne target inputs.outputDirectory (fileStem className) mark same.symm
  · unfold Inputs.converter? at converter
    split at converter
    next root _ =>
      have parts : converterLocation root =
          root ++ ["lib", "generate"] ++ ["json_value_converter" ++ ".dart"] := by
        rw [List.append_assoc]
        rfl
      rw [Option.some_inj, parts] at converter
      exact temporaryLocation_ne target _ _ mark converter.symm
    next => cases converter

/-- Progress of a build is no announcement. -/
theorem announcement_notMem {later : List String}
    (progress : later ⊆ ["Running build_runner...", "build_runner completed."]) (name : String) :
    "Generated " ++ name ∉ later ++ [""] := by
  intro member
  have known : "Generated " ++ name ∈ ["Running build_runner...", "build_runner completed.", ""] :=
    (List.append_subset.mpr ⟨List.subset_append_of_subset_left [""] progress, by simp⟩) member
  have heads : ∀ line ∈ ["Running build_runner...", "build_runner completed.", ""],
      line.toList.head? ≠ some 'G' := by decide
  exact heads _ known (by simp)

/-! The effects of a run -/

/-- A run that has not written its output announces nothing. -/
theorem Abandoned.effects {outcome : Outcome} {result : Except RunError Unit}
    (abandoned : Abandoned inputs tree result outcome.session) (failed : outcome.exitCode ≠ 0) :
    Effects inputs tree outcome := by
  have confined (location : Location)
      (changed : outcome.session.tree.fileAt? location ≠ tree.fileAt? location) :
      inputs.output? = some location ∨ inputs.converter? tree = some location :=
    .inr (abandoned.files location changed).2
  have lines : outcome.lines = [""] := by
    rw [lines_eq (by simp [abandoned.printed]), abandoned.printed, List.nil_append]
  refine {
    kept := fun location content there => ⟨content, abandoned.files.fileAt?_eq there⟩
    confined := confined
    unstaged := fun target mark => temporaryLocation_unchanged target mark confined
    silent := fun _ => abandoned.files
    unforced := fun _ location content there => abandoned.files.fileAt?_eq there
    announced := fun name => ?_
    written := fun completion => (abandoned.unwritten.false completion).elim
    builds := .inl abandoned.builds
    succeeded := fun succeeded => absurd succeeded failed }
  constructor
  · intro printed
    rw [lines] at printed
    exact absurd printed (announcement_notMem (List.nil_subset _) name)
  · rintro ⟨completion, -⟩
    exact (abandoned.unwritten.false completion).elim

/-- A run that has written its output announces it. -/
theorem Written.Leaves.effects {outcome : Outcome} (settled : ".." ∉ inputs.outputDirectory)
    {completion : Written inputs tree} (leaves : completion.Leaves outcome.session) :
    Effects inputs tree outcome := by
  have changes (location : Location) : outcome.session.tree.fileAt? location =
      if location = completion.target then some (.text (source completion.file))
      else completion.prepared.fileAt? location := by
    rw [leaves.tree, completion.fileAt?_after settled location]
  have only := completion.onlyConverter settled
  have confined (location : Location)
      (changed : outcome.session.tree.fileAt? location ≠ tree.fileAt? location) :
      inputs.output? = some location ∨ inputs.converter? tree = some location := by
    rw [changes location] at changed
    split at changed
    next here => exact .inl (here ▸ completion.output?_eq)
    next => exact .inr (only location changed).2
  obtain ⟨later, printed, progress⟩ := leaves.printed
  have lines : outcome.lines = completion.announcement :: later ++ [""] := by
    rw [lines_eq, printed]
    intro line member
    rw [printed] at member
    rcases List.mem_cons.mp member with rfl | member
    · exact announcement_avoids completion
    · have known := progress member
      simp only [List.mem_cons, List.not_mem_nil, or_false] at known
      rcases known with rfl | rfl <;> decide
  have announced (name : String) (member : "Generated " ++ name ∈ outcome.lines) :
      completion.target.name = name := by
    rw [lines, List.cons_append, List.mem_cons] at member
    rcases member with same | member
    · exact (String.append_right_inj _).mp same.symm
    · exact absurd member (announcement_notMem progress name)
  refine {
    kept := fun location content there => ?_
    confined := confined
    unstaged := fun target mark => temporaryLocation_unchanged target mark confined
    silent := fun unannounced => ?_
    unforced := fun unforced location content there => ?_
    announced := fun name => ⟨fun member => ⟨completion, announced name member⟩, ?_⟩
    written := fun other => ?_
    builds := ?_
    succeeded := fun _ => ⟨completion⟩ }
  · rw [changes location]
    split
    · exact ⟨_, rfl⟩
    · exact ⟨content, only.fileAt?_eq there⟩
  · refine absurd ?_ (unannounced completion.target.name)
    rw [lines]
    exact List.mem_cons_self
  · rw [changes location]
    split
    next here =>
      -- Without force nothing was at the target, also not before the converter module was made.
      have new := completion.fileAt?_target settled unforced
      rw [← here, only.fileAt?_eq there] at new
      cases new
    next => exact only.fileAt?_eq there
  · rintro ⟨other, rfl⟩
    cases Subsingleton.elim completion other
    rw [lines]
    exact List.mem_cons_self
  · cases Subsingleton.elim completion other
    rw [changes, if_pos rfl]
    exact ⟨completion.output?_eq, rfl⟩
  · rcases leaves.builds with none | ⟨asked, started, logged⟩
    · exact .inl none
    · exact .inr ⟨asked, completion, started, logged⟩

/-- All changes lie among the locations that a run writes at. -/
theorem Effects.mem_targets {outcome : Outcome} {location : Location}
    (effects : Effects inputs tree outcome)
    (changed : outcome.session.tree.fileAt? location ≠ tree.fileAt? location) :
    location ∈ inputs.targets := by
  rw [Inputs.targets, List.mem_append]
  rcases effects.confined location changed with output | converter
  · right
    unfold Inputs.output? at output
    unfold outputFootprint
    cases named : jobClassName inputs with
    | error error => simp [named, Except.toOption] at output
    | ok className => simpa [named, Except.toOption, eq_comm] using output
  · left
    unfold Inputs.converter? at converter
    split at converter
    next root found =>
      cases converter
      exact List.mem_map_of_mem (mem_selfAndAbove.mpr (prefix_of_projectRoot? found))
    next => cases converter

theorem effects_of_run (dart : Option BuildResult) (tree : Tree) (verbose : Bool)
    (settled : ".." ∉ inputs.outputDirectory) :
    Effects inputs tree
      (Outcome.ofRun verbose ((run dart inputs).run.run (Session.start tree))) := by
  have course := course_of_run dart inputs tree
  generalize (run dart inputs).run.run (Session.start tree) = ended at course ⊢
  obtain ⟨result, session⟩ := ended
  rcases course.leaves_or_abandoned settled with ⟨completion, leaves⟩ | abandoned
  · cases result with
    | ok _ => exact leaves.effects settled
    | error error => exact leaves.effects settled
  · obtain ⟨error, rfl⟩ := abandoned.failed
    exact abandoned.effects Nat.one_ne_zero

/-- The inputs that the arguments of the command make. -/
def commandInputs? (workingDirectory : Location) (tree : Tree) (arguments : List String) :
    Option Inputs := do
  let request ← Request.ofArguments arguments
  (request.inputs workingDirectory tree).toOption

/-- A project with an empty document and the converter module. -/
def userTree : Tree :=
  .directory [("pubspec.yaml", .file (.text "")), ("user.json", .file (.text "\x7b\x7d")),
    ("lib", .directory [("generate", .directory [
      (ConverterModule.fileName, .file (.text ConverterModule.content))])])]

def userInputs : Inputs := ⟨Settings.standard, ["user.json"], ["lib"], none, none⟩

def userFile : ModelFile :=
  ⟨"UserEntity", "./generate/json_value_converter.dart", [⟨"UserEntity", "UserEntity", []⟩]⟩

theorem checkOutput_userFile : checkOutput true (source userFile) = .ok () := by
  have lines : (source userFile).toList =
      (sourceLines userFile).flatMap fun line => line.toList ++ ['\n'] := toList_unlines _
  have checked : checkStructure (source userFile) = .ok () := by
    rw [checkStructure, lines]
    decide +kernel
  rw [checkOutput, if_pos rfl, checked]
  rfl

def userPreparation : Prepared userInputs userTree where
  job := ⟨.mapping [], "UserEntity", .standard, []⟩
  root := []
  created := false
  prepared := userTree
  read := rfl
  found := rfl
  ensured := rfl

def userCompletion : Written userInputs userTree where
  toPrepared := userPreparation
  file := userFile
  after := userTree.set ["lib", "user_entity.dart"] (.file (.text (source userFile)))
  inferred := rfl
  written :=
    have staged : stagingPlace userTree ["lib", "user_entity.dart"] maxTries 0 =
      .ok ["lib", ".user_entity.dart.xxxxxxx0.tmp"] := rfl
    writeOutput_of_ok rfl rfl staged checkOutput_userFile rfl

end DartModels.Cli
