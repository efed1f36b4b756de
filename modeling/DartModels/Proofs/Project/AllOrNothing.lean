import DartModels.Proofs.Project.Output

/-
An output is written with nothing else changed, or not written with no file changed.
-/

namespace DartModels.Project

open DartModels.Dart
open DartModels.Project.Tree
open DartModels.Text

variable {tree after : Tree} {target : Location} {mode : OutputMode} {validate : Bool}
  {text : String}

/-! The steps of an output that is written -/

theorem replaceFile_eq_ok (replaced : replaceFile validate target text tree = (.ok (), after)) :
    (∃ staging, stagingPlace tree target maxTries 0 = .ok staging) ∧
      checkOutput validate text = .ok () ∧ tree.writeFile target (.text text) = .ok after := by
  obtain ⟨_, same⟩ | ⟨_, same, checked, written⟩ := replaceFile_cases validate target text tree
  · rw [same] at replaced
    cases replaced
  · rw [same] at replaced
    cases replaced
    refine ⟨?_, checked, written⟩
    cases found : stagingPlace tree target maxTries 0 with
    | ok staging => exact ⟨staging, rfl⟩
    | error error =>
        rw [replaceFile, found] at same
        cases same

theorem replaceFile_eq_error {error : OutputError}
    (failed : replaceFile validate target text tree = (.error error, after)) : after = tree := by
  obtain ⟨_, same⟩ | ⟨_, same, -⟩ := replaceFile_cases validate target text tree
  · rw [same] at failed
    exact (Prod.mk.inj failed).2.symm
  · rw [same] at failed
    cases failed

theorem parent_append (way : Location) (name : String) : Location.parent (way ++ [name]) = way := by
  rw [Location.parent, List.dropLast_concat]

theorem name_append (way : Location) (name : String) : Location.name (way ++ [name]) = name := by
  rw [Location.name, List.getLast?_concat, Option.getD_some]

theorem place_nil (tree : Tree) : tree.place [] = .ok [] := rfl

/-- A target that is no directory is a name in the directory above it. -/
theorem place_eq_append {here : Location} (root : tree.isDirectory [] = true)
    (above : target.parent ≠ [] → tree.leadsToDirectory target.parent = true)
    (found : tree.place target = .ok here) (free : tree.isDirectory here = false) :
    target = target.parent ++ [target.name] ∧
      ∃ directory, tree.place target.parent = .ok directory ∧
        tree.isDirectory directory = true ∧ here = directory ++ [target.name] := by
  rcases target.eq_nil_or_concat with rfl | ⟨way, name, rfl⟩
  · rw [place_nil] at found
    obtain rfl := Except.ok.inj found
    rw [root] at free
    cases free
  · rw [List.concat_eq_append] at above found ⊢
    rw [parent_append] at above ⊢
    rw [name_append]
    refine ⟨rfl, ?_⟩
    obtain ⟨directory, leads, isDirectory⟩ :
        ∃ directory, tree.place way = .ok directory ∧ tree.isDirectory directory = true := by
      by_cases top : way = []
      · rw [top]
        exact ⟨[], place_nil tree, root⟩
      · exact leadsToDirectory_iff.mp (above top)
    refine ⟨directory, leads, isDirectory, ?_⟩
    rw [place_append (place_eq_ok found).1 leads] at found
    obtain ⟨-, ⟨-, rfl⟩ | ⟨-, rfl⟩⟩ := goOn_eq_ok found
    · -- The way back up ends at a directory.
      rw [Location.parent, isDirectory_dropLast isDirectory] at free
      cases free
    · rfl

/-- How an output is written: its directories are made, and in the last one it gets its name. -/
structure OutputSteps (mode : OutputMode) (validate : Bool) (target : Location) (text : String)
    (tree prepared : Tree) (directory : Location) (after : Tree) : Prop where
  allowed : isForbidden mode target tree = .ok false
  made : tree.makeDirectories target.parent = (.ok (), prepared)
  staged : ∃ staging, stagingPlace prepared target maxTries 0 = .ok staging
  checked : checkOutput validate text = .ok ()
  named : target = target.parent ++ [target.name]
  leads : prepared.place target.parent = .ok directory
  isDirectory : prepared.isDirectory directory = true
  reached : prepared.place target = .ok (directory ++ [target.name])
  free : prepared.isDirectory (directory ++ [target.name]) = false
  written : after = prepared.set (directory ++ [target.name]) (.file (.text text))

theorem writeOutput_steps (written : writeOutput mode validate target text tree = (.ok (), after)) :
    ∃ prepared directory, OutputSteps mode validate target text tree prepared directory after := by
  unfold writeOutput at written
  split at written
  · cases written
  · cases written
  next allowed =>
    split at written
    next => cases written
    next prepared made =>
      obtain ⟨⟨staging, staged⟩, checked, filed⟩ := replaceFile_eq_ok written
      obtain ⟨here, reached, free, rfl⟩ := writeFile_eq_ok filed
      obtain ⟨place, _, _, isDirectory, _⟩ := stagingPlace_eq_ok staged
      have below : prepared.isDirectory ([] ++ place) = true := isDirectory
      have root := isDirectory_of_append below
      obtain ⟨named, directory, leads, isDirectory, rfl⟩ :=
        place_eq_append root (fun filled => makeDirectories_eq_ok filled made) reached free
      exact ⟨prepared, directory, allowed, made, ⟨staging, staged⟩, checked, named, leads,
        isDirectory, reached, free, rfl⟩

/-! Temporary files -/

theorem temporaryName_apart (name : String) (mark : Nat) :
    temporaryName name mark ≠ name ∧ temporaryName name mark ≠ ".." := by
  have size : name.length + 6 ≤ (temporaryName name mark).length := by
    simp only [temporaryName, String.length_append]
    have dot : ".".length = 1 := rfl
    have suffix : ".tmp".length = 4 := rfl
    omega
  constructor
  · intro same
    rw [same] at size
    omega
  · intro up
    rw [up] at size
    have two : "..".length = 2 := rfl
    omega

namespace OutputSteps

variable {prepared : Tree} {directory : Location}

theorem kept (steps : OutputSteps mode validate target text tree prepared directory after) :
    KeepsDirectories prepared after := by
  rw [steps.written]
  exact keepsDirectories_set_file steps.isDirectory steps.free _

theorem fileAt? (steps : OutputSteps mode validate target text tree prepared directory after)
    (other : Location) :
    after.fileAt? other =
      if other = directory ++ [target.name] then some (.text text) else tree.fileAt? other := by
  have files := fileAt?_makeDirectories tree target.parent
  rw [steps.made] at files
  rw [steps.written, fileAt?_set_file steps.isDirectory steps.free, ← files]

/-- A temporary file would have another name in the same directory. -/
theorem temporary_ne (steps : OutputSteps mode validate target text tree prepared directory after)
    {mark : Nat} {here : Location}
    (found : after.place (temporaryLocation target mark) = .ok here) :
    here ≠ directory ++ [target.name] := by
  obtain ⟨different, down⟩ := temporaryName_apart target.name mark
  rw [temporaryLocation, place_append (place_eq_ok found).1 (steps.kept.place steps.leads)] at found
  obtain ⟨-, ⟨up, -⟩ | ⟨-, rfl⟩⟩ := goOn_eq_ok found
  · exact absurd up down
  · intro same
    exact different (List.cons.inj (List.append_cancel_left same)).1

end OutputSteps

/-! Outputs that are there already -/

theorem checkOutput_ne_outputExists {location : Location} :
    checkOutput validate text ≠ .error (.outputExists location) := by
  rw [checkOutput]
  split
  · cases checkStructure text <;> nofun
  · nofun

theorem replaceFile_ne_outputExists {location : Location} :
    replaceFile validate target text tree ≠ (.error (.outputExists location), after) := by
  intro failed
  unfold replaceFile at failed
  split at failed
  · cases failed
  next staging staged =>
    dsimp only at failed
    split at failed
    next error rejected =>
      obtain rfl := Except.error.inj (Prod.mk.inj failed).1
      exact checkOutput_ne_outputExists rejected
    next => split at failed <;> cases failed

theorem writeOutput_eq_outputExists_iff {location : Location} :
    writeOutput mode validate target text tree = (.error (.outputExists location), after) ↔
      isForbidden mode target tree = .ok true ∧ location = target ∧ after = tree := by
  unfold writeOutput
  cases isForbidden mode target tree with
  | error error => simp
  | ok forbidden =>
      cases forbidden with
      | true => simp [eq_comm]
      | false =>
          simp only [Except.ok.injEq, Bool.false_eq_true, false_and, iff_false]
          split
          · nofun
          · exact replaceFile_ne_outputExists

theorem isForbidden_iff :
    isForbidden mode target tree = .ok true ↔
      mode = .errorIfExists ∧ ∃ found, tree.find? target = .ok (some found) := by
  cases mode with
  | force => simp [isForbidden]
  | errorIfExists =>
      rw [isForbidden]
      cases tree.find? target with
      | error error => simp [Except.map]
      | ok found? => simp [Except.map, Option.isSome_iff_exists]

/-! All or nothing -/

/-- An output that is not written leaves directories at most, and on a plain way all of them or
none. -/
theorem directoriesMade_of_not_written {error : OutputError}
    (failed : writeOutput mode validate target text tree = (.error error, after)) :
    DirectoriesMade target.parent tree after ∧
      (after = tree ∨ tree.makeDirectories target.parent = (.ok (), after) ∨
        ¬IsPlain target.parent) := by
  have directories := directoriesMade_makeDirectories tree target.parent
  unfold writeOutput at failed
  split at failed
  · obtain rfl := (Prod.mk.inj failed).2
    exact ⟨.refl _ _, .inl rfl⟩
  · obtain rfl := (Prod.mk.inj failed).2
    exact ⟨.refl _ _, .inl rfl⟩
  · split at failed
    next refusal prepared made =>
      obtain rfl := (Prod.mk.inj failed).2
      rw [made] at directories
      refine ⟨directories, ?_⟩
      by_cases plain : IsPlain target.parent
      · exact .inl (makeDirectories_eq_error plain made)
      · exact .inr (.inr plain)
    next prepared made =>
      obtain rfl := replaceFile_eq_error failed
      rw [made] at directories
      exact ⟨directories, .inr (.inl made)⟩

/-- A written output is the only file that changes, and a temporary file is not left; an output
that is not written changes no file, and what it leaves are directories on the way to it. What is
there already is refused before anything is made. -/
theorem writeOutput_all_or_nothing (mode : OutputMode) (validate : Bool) (target : Location)
    (text : String) (tree : Tree) :
    (∀ after, writeOutput mode validate target text tree = (.ok (), after) →
      ∃ here, after.place target = .ok here ∧
        (∀ other, after.fileAt? other =
          if other = here then some (.text text) else tree.fileAt? other) ∧
        ∀ mark staging, after.place (temporaryLocation target mark) = .ok staging →
          after.fileAt? staging = tree.fileAt? staging) ∧
    (∀ error after, writeOutput mode validate target text tree = (.error error, after) →
      DirectoriesMade target.parent tree after ∧
        (after = tree ∨ tree.makeDirectories target.parent = (.ok (), after) ∨
          ¬IsPlain target.parent)) ∧
    ∀ location after,
      writeOutput mode validate target text tree = (.error (.outputExists location), after) ↔
        (mode = .errorIfExists ∧ ∃ found, tree.find? target = .ok (some found)) ∧
          location = target ∧ after = tree := by
  refine ⟨?_, fun error after => directoriesMade_of_not_written, ?_⟩
  · intro after written
    obtain ⟨prepared, directory, steps⟩ := writeOutput_steps written
    refine ⟨directory ++ [target.name], steps.kept.place steps.reached, steps.fileAt?, ?_⟩
    intro mark staging found
    rw [steps.fileAt?, if_neg (steps.temporary_ne found)]
  · intro location after
    rw [writeOutput_eq_outputExists_iff, isForbidden_iff]

def libOutput : Location := ["lib", "a.dart"]

/-- The directory for an output alone. -/
def libTree : Tree := .directory [("lib", .directory [])]

def writtenTree : Tree := libTree.set libOutput (.file (.text "x"))

/-- An output is written into an empty tree, the next one is refused, and one whose text is
rejected leaves its directory. -/
theorem writeOutput_all_or_nothing_libOutput :
    (writeOutput .errorIfExists false libOutput "x" Tree.empty = (.ok (), writtenTree) ∧
        ∃ here, writtenTree.place libOutput = .ok here ∧
          writtenTree.fileAt? here = some (.text "x")) ∧
      writeOutput .errorIfExists false libOutput "y" writtenTree =
        (.error (.outputExists libOutput), writtenTree) ∧
      writeOutput .errorIfExists true libOutput "x" Tree.empty =
        (.error (.malformed .noClass), libTree) ∧
      DirectoriesMade ["lib"] Tree.empty libTree := by
  have staged : stagingPlace libTree libOutput maxTries 0 = .ok ["lib", ".a.dart.xxxxxxx0.tmp"] :=
    rfl
  have done : writeOutput .errorIfExists false libOutput "x" Tree.empty = (.ok (), writtenTree) :=
    writeOutput_of_ok rfl rfl staged rfl rfl
  have rejected : writeOutput .errorIfExists true libOutput "x" Tree.empty =
      (.error (.malformed .noClass), libTree) := rfl
  obtain ⟨here, found, files, -⟩ :=
    (writeOutput_all_or_nothing .errorIfExists false libOutput "x" Tree.empty).1 _ done
  obtain ⟨made, -⟩ :=
    (writeOutput_all_or_nothing .errorIfExists true libOutput "x" Tree.empty).2.1 _ _ rejected
  refine ⟨⟨done, here, found, by rw [files, if_pos rfl]⟩, ?_, rejected, made⟩
  exact ((writeOutput_all_or_nothing .errorIfExists false libOutput "y" writtenTree).2.2 _ _).mpr
    ⟨⟨rfl, _, rfl⟩, rfl, rfl⟩

/-- Ways that lead up again from a directory that is missing: one is blocked by a file, so not all
its directories are made; at the end of the other is a directory, so nothing can be written there,
whatever the text. -/
theorem directory_left :
    let file : Tree := .directory [("notes", .file (.text "x"))]
    let directory : Tree := .directory [("notes", .directory [])]
    let below : Location := ["missing", "..", "notes", "a.dart"]
    let there : Location := ["missing", "..", "notes"]
    ((file.makeDirectories below.parent).1 = .error ⟨.alreadyExists, there⟩ ∧
        (writeOutput .errorIfExists true below "" file).1 =
          .error (.refused ⟨.alreadyExists, there⟩) ∧
        file.contains ["missing"] = false ∧
        (writeOutput .errorIfExists true below "" file).2.isDirectory ["missing"] = true) ∧
      (writeOutput .force false there "" directory).1 = .error (.refused ⟨.isDirectory, there⟩) ∧
        directory.contains ["missing"] = false ∧
        (writeOutput .force false there "" directory).2.isDirectory ["missing"] = true :=
  ⟨⟨rfl, rfl, rfl, rfl⟩, rfl, rfl, rfl⟩

end DartModels.Project
