import DartModels.Proofs.Cli.Effects
import DartModels.Proofs.Name.Letters

/-
What becomes of an edited converter module over a sequence of runs.
-/

namespace DartModels.Cli

open DartModels.Dart
open DartModels.Name
open DartModels.Project
open DartModels.Schema
open DartModels.Text

/-! One run -/

section Run

variable {inputs : Inputs} {tree : Tree} {location : Location} {content : Content}

/-- A file stays as it is unless it is the output and the output is forced. -/
theorem fileAt?_run (dart : Option BuildResult) (settled : ".." ∉ inputs.outputDirectory)
    (there : tree.fileAt? location = some content)
    (spared : inputs.output? = some location → inputs.settings.force = false) :
    ((run dart inputs).run.run (Session.start tree)).2.tree.fileAt? location = some content := by
  have course := course_of_run dart inputs tree
  generalize (run dart inputs).run.run (Session.start tree) = ended at course ⊢
  rcases course.leaves_or_abandoned settled with ⟨completion, leaves⟩ | abandoned
  · have before := (completion.onlyConverter settled).fileAt?_eq there
    rw [leaves.tree, completion.fileAt?_after settled]
    split
    next here =>
      -- An unforced output goes where nothing was, but the file was there.
      have unforced := spared (here ▸ completion.output?_eq)
      have free := completion.fileAt?_target settled unforced
      rw [← here, before] at free
      cases free
    next => exact before
  · exact abandoned.files.fileAt?_eq there

end Run

/-! Calls of the command -/

/-- A call of the command: where it is made, with which arguments, and how a build would end. -/
structure Call where
  dart : Option BuildResult
  workingDirectory : Location
  arguments : List String

def Call.outcome (call : Call) (tree : Tree) : Outcome :=
  runCommand call.dart call.workingDirectory tree call.arguments

/-- The tree that calls leave, one after another. -/
def treeAfter (tree : Tree) : List Call → Tree
  | [] => tree
  | call :: rest => treeAfter (call.outcome tree).session.tree rest

/-- A call that claims the place of a project's converter module for its own output: by force and
without the entity suffix, in the directory of the module and under its name. -/
structure Call.Claims (call : Call) (root : Location) (request : Request) : Prop where
  requested : Request.ofArguments call.arguments = some request
  forced : request.settings.force = true
  unsuffixed : request.settings.entitySuffix = false
  beside : ∃ directory, request.outputDirectory = some directory ∧
    Location.resolve call.workingDirectory directory = (converterLocation root).parent
  named : ∃ document name, request.document = some document ∧
    className false (request.settings.name.getD
      (Location.resolve call.workingDirectory document).stem) = .ok name ∧
    fileName name = ConverterModule.fileName

theorem parent_converterLocation (root : Location) :
    (converterLocation root).parent ++ [ConverterModule.fileName] = converterLocation root := by
  simp [converterLocation, converterParts, Location.parent]

/-- No class whose name has the entity suffix is stored under the name of the converter module. -/
theorem fileName_ne_of_entitySuffix {given name : String}
    (named : className true given = .ok name) : fileName name ≠ ConverterModule.fileName := by
  intro same
  have stem : fileStem name = "json_value_converter" := by
    have ends : fileStem name ++ ".dart" = "json_value_converter" ++ ".dart" := same
    exact (String.append_left_inj _).mp ends
  have entity := entity_suffix_fileStem named
  rw [stem] at entity
  exact absurd entity (by decide)

theorem output?_eq_some {inputs : Inputs} {location : Location}
    (output : inputs.output? = some location) :
    ∃ name, className inputs.settings.entitySuffix
        (inputs.settings.name.getD inputs.document.stem) = .ok name ∧
      location = inputs.outputDirectory ++ [fileName name] := by
  rw [Inputs.output?, Option.map_eq_some_iff] at output
  obtain ⟨name, named, whole⟩ := output
  refine ⟨name, ?_, whole.symm⟩
  rw [jobClassName] at named
  generalize className inputs.settings.entitySuffix _ = result at named ⊢
  cases result with
  | error error => cases named
  | ok found =>
      rw [Option.some.inj named]

/-- Only a call that claims it can have the converter module for its forced output. -/
theorem claims_of_output? {call : Call} {tree : Tree} {root : Location} {request : Request}
    {inputs : Inputs} (requested : Request.ofArguments call.arguments = some request)
    (given : request.inputs call.workingDirectory tree = .ok inputs)
    (forced : inputs.settings.force = true)
    (output : inputs.output? = some (converterLocation root)) : call.Claims root request := by
  obtain ⟨settings, -⟩ := inputs_eq_ok given
  obtain ⟨document, directory, documented, located, directed, beside⟩ := inputs_resolved given
  obtain ⟨name, called, whole⟩ := output?_eq_some output
  rw [← parent_converterLocation] at whole
  obtain ⟨same, last⟩ := List.append_inj' whole (by simp)
  rw [settings, located] at called
  rw [settings] at forced
  have stored : fileName name = ConverterModule.fileName := (List.cons.inj last).1.symm
  have unsuffixed : request.settings.entitySuffix = false := by
    rw [Bool.eq_false_iff]
    intro suffixed
    rw [suffixed] at called
    exact fileName_ne_of_entitySuffix called stored
  rw [unsuffixed] at called
  exact {
    requested := requested
    forced := forced
    unsuffixed := unsuffixed
    beside := ⟨directory, directed, by rw [← beside, same]⟩
    named := ⟨document, name, documented, called, stored⟩ }

theorem session_outcome {call : Call} {tree : Tree} {request : Request} {inputs : Inputs}
    (requested : Request.ofArguments call.arguments = some request)
    (given : request.inputs call.workingDirectory tree = .ok inputs) :
    (call.outcome tree).session = ((run call.dart inputs).run.run (Session.start tree)).2 := by
  rw [Call.outcome, runCommand_of_inputs requested given, session_ofRun]

/-- A call that does not claim it keeps the converter module as it is. -/
theorem fileAt?_call {call : Call} {tree : Tree} {root : Location} {content : Content}
    (there : tree.fileAt? (converterLocation root) = some content)
    (unclaimed : ∀ request, ¬ call.Claims root request) :
    (call.outcome tree).session.tree.fileAt? (converterLocation root) = some content := by
  cases requested : Request.ofArguments call.arguments with
  | none => rwa [Call.outcome, runCommand, requested]
  | some request =>
      cases given : request.inputs call.workingDirectory tree with
      | error error =>
          rw [Call.outcome, runCommand, requested]
          dsimp only
          rw [given]
          cases error <;> exact there
      | ok inputs =>
          rw [session_outcome requested given]
          refine fileAt?_run call.dart (inputs_eq_ok given).2 there fun output => ?_
          rw [Bool.eq_false_iff]
          exact fun forced => unclaimed request (claims_of_output? requested given forced output)

/-- An edited converter module survives any sequence of calls none of which claims its place. -/
theorem converter_survives_calls {tree : Tree} {root : Location} {content : Content}
    (calls : List Call) (there : tree.fileAt? (converterLocation root) = some content)
    (unclaimed : ∀ call ∈ calls, ∀ request, ¬ call.Claims root request) :
    (treeAfter tree calls).fileAt? (converterLocation root) = some content := by
  induction calls generalizing tree with
  | nil => exact there
  | cons call rest ih =>
      obtain ⟨own, others⟩ := List.forall_mem_cons.mp unclaimed
      exact ih (fileAt?_call there own) others

/-- A call that claims the place of the module fills it with its own source once it writes. -/
theorem claimed_module_replaced {call : Call} {tree : Tree} {root : Location} {request : Request}
    {inputs : Inputs} (claims : call.Claims root request)
    (given : request.inputs call.workingDirectory tree = .ok inputs)
    (completion : Written inputs tree) :
    (call.outcome tree).session.tree.fileAt? (converterLocation root) =
      some (.text (source completion.file)) := by
  obtain ⟨settings, settled⟩ := inputs_eq_ok given
  obtain ⟨document, directory, documented, located, directed, beside⟩ := inputs_resolved given
  obtain ⟨name, called, target⟩ := output?_eq_some completion.output?_eq
  obtain ⟨asked, own, known⟩ := claims.beside
  obtain ⟨file, claimed, sameFile, named, stored⟩ := claims.named
  have target : completion.target = converterLocation root := by
    cases directed.symm.trans own
    cases documented.symm.trans sameFile
    rw [settings, claims.unsuffixed, located, named, Except.ok.injEq] at called
    rw [target, beside, known, ← called, stored, parent_converterLocation]
  have effects := (effects_of_run call.dart tree false settled).written completion
  rw [session_outcome claims.requested given, ← target]
  rw [session_ofRun] at effects
  exact effects.2

/-! A project with an edited converter module -/

def edited : String := "// edited\n"

def editedTree : Tree :=
  .directory [("pubspec.yaml", .file (.text "")), ("user.json", .file (.text "\x7b\x7d")),
    ("lib", .directory [("generate", .directory [
      (ConverterModule.fileName, .file (.text edited))])])]

/-- A call for a class with the name of the converter module, in the module's directory. -/
def namesakeCall (options : List String) : Call :=
  ⟨none, [], ["user.json", "lib/generate", "--name", "json_value_converter"] ++ options⟩

/-- Two calls come close to the module, one without force and one with the entity suffix. -/
theorem converter_survives_namesakes :
    editedTree.fileAt? (converterLocation []) = some (.text edited) ∧
      (treeAfter editedTree [namesakeCall ["--no-entity-suffix"], namesakeCall ["--force"]]).fileAt?
        (converterLocation []) = some (.text edited) := by
  have there : editedTree.fileAt? (converterLocation []) = some (.text edited) := rfl
  refine ⟨there, converter_survives_calls _ there ?_⟩
  rw [List.forall_mem_cons, List.forall_mem_singleton]
  constructor
  · intro request claims
    cases claims.requested
    cases claims.forced
  · intro request claims
    cases claims.requested
    cases claims.unsuffixed

def namesakeInputs : Inputs :=
  ⟨{ Settings.standard with
      name := some "json_value_converter"
      entitySuffix := false
      force := true },
    ["user.json"], ["lib", "generate"], none, none⟩

def namesakeFile : ModelFile :=
  ⟨"JsonValueConverter", "./json_value_converter.dart",
    [⟨"JsonValueConverter", "JsonValueConverter", []⟩]⟩

theorem checkOutput_namesakeFile : checkOutput true (source namesakeFile) = .ok () := by
  have lines : (source namesakeFile).toList =
      (sourceLines namesakeFile).flatMap fun line => line.toList ++ ['\n'] := toList_unlines _
  have checked : checkStructure (source namesakeFile) = .ok () := by
    rw [checkStructure, lines]
    decide +kernel
  rw [checkOutput, if_pos rfl, checked]
  rfl

def namesakePreparation : Prepared namesakeInputs editedTree where
  job := ⟨.mapping [], "JsonValueConverter", .standard, []⟩
  root := []
  created := false
  prepared := editedTree
  read := rfl
  found := rfl
  ensured := rfl

def namesakeCompletion : Written namesakeInputs editedTree where
  toPrepared := namesakePreparation
  file := namesakeFile
  after := editedTree.set (converterLocation []) (.file (.text (source namesakeFile)))
  inferred := rfl
  written :=
    have staged : stagingPlace editedTree (converterLocation []) maxTries 0 =
      .ok ["lib", "generate", ".json_value_converter.dart.xxxxxxx0.tmp"] := rfl
    writeOutput_of_ok rfl rfl staged checkOutput_namesakeFile rfl

/-- Forced and without the suffix, the call puts its own source in the place of the module. -/
theorem namesake_replaces_converter :
    editedTree.fileAt? (converterLocation []) = some (.text edited) ∧
      (treeAfter editedTree [namesakeCall ["--no-entity-suffix", "--force"]]).fileAt?
        (converterLocation []) ≠ some (.text edited) := by
  have claims : (namesakeCall ["--no-entity-suffix", "--force"]).Claims []
      ⟨namesakeInputs.settings, some "user.json", some "lib/generate", []⟩ :=
    { requested := rfl
      forced := rfl
      unsuffixed := rfl
      beside := ⟨"lib/generate", rfl, rfl⟩
      named := ⟨"user.json", "JsonValueConverter", rfl, rfl, rfl⟩ }
  have replaced := claimed_module_replaced claims rfl namesakeCompletion
  refine ⟨rfl, fun kept => ?_⟩
  rw [treeAfter, treeAfter] at kept
  have same : source namesakeFile = edited :=
    Content.text.inj (Option.some.inj (replaced.symm.trans kept))
  have first : (source namesakeFile).toList.head? = some 'i' := by
    rw [source, toList_unlines]
    rfl
  rw [same] at first
  exact absurd first (by decide)

end DartModels.Cli
