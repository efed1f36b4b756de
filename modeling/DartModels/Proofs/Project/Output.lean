import DartModels.Project.Output
import DartModels.Proofs.Project.Growth

/-
What the writing of an output changes: its own file or no file.
-/

namespace DartModels.Project

open DartModels.Project.Tree

variable {tree after : Tree} {target : Location} {mode : OutputMode} {validate : Bool}
  {text : String}

/-- A temporary file finds its place in a directory, where nothing is yet. -/
theorem stagingPlace_eq_ok {tries mark : Nat} {here : Location}
    (found : stagingPlace tree target tries mark = .ok here) :
    ∃ parent name, here = parent ++ [name] ∧ tree.isDirectory parent = true ∧
      tree.contains here = false := by
  induction tries generalizing mark with
  | zero => cases found
  | succ tries ih =>
      rw [stagingPlace] at found
      split at found
      · cases found
      next place reached =>
        split at found
        · exact ih found
        next free =>
          cases found
          rw [Bool.not_eq_true] at free
          rcases reached_of_place reached with rfl | ⟨parent, name, rfl, isDirectory⟩
          · cases free
          · exact ⟨parent, name, rfl, isDirectory, free⟩

/-- A file that is replaced is written as if there were no temporary file; otherwise nothing is
left behind. -/
theorem replaceFile_cases (validate : Bool) (target : Location) (text : String) (tree : Tree) :
    (∃ error, replaceFile validate target text tree = (.error error, tree)) ∨
      ∃ after, replaceFile validate target text tree = (.ok (), after) ∧
        checkOutput validate text = .ok () ∧ tree.writeFile target (.text text) = .ok after := by
  unfold replaceFile
  cases found : stagingPlace tree target maxTries 0 with
  | error error => exact .inl ⟨_, rfl⟩
  | ok staging =>
      obtain ⟨parent, name, rfl, isDirectory, free⟩ := stagingPlace_eq_ok found
      dsimp only
      -- Nothing was at the place, so the tree is back once the temporary file is taken away.
      rw [remove_set isDirectory free, moveFile_set isDirectory free]
      cases checkOutput validate text with
      | error error => exact .inl ⟨_, rfl⟩
      | ok _ =>
          cases tree.writeFile target (.text text) with
          | error error => exact .inl ⟨_, rfl⟩
          | ok after => exact .inr ⟨after, rfl, rfl, rfl⟩

/-- An output is written over what the mode allows, after directories were made for it; otherwise
no file changes. -/
theorem writeOutput_cases (mode : OutputMode) (validate : Bool) (target : Location) (text : String)
    (tree : Tree) :
    (∃ error after, writeOutput mode validate target text tree = (.error error, after) ∧
        after.fileAt? = tree.fileAt?) ∨
      ∃ prepared after : Tree, writeOutput mode validate target text tree = (.ok (), after) ∧
        isForbidden mode target tree = .ok false ∧ prepared.fileAt? = tree.fileAt? ∧
        prepared.writeFile target (.text text) = .ok after := by
  unfold writeOutput
  cases isForbidden mode target tree with
  | error error => exact .inl ⟨_, _, rfl, rfl⟩
  | ok forbidden =>
      cases forbidden with
      | true => exact .inl ⟨_, _, rfl, rfl⟩
      | false =>
          have same := fileAt?_makeDirectories tree target.parent
          generalize tree.makeDirectories target.parent = result at same ⊢
          obtain ⟨made, prepared⟩ := result
          dsimp only at same
          cases made with
          | error error => exact .inl ⟨_, _, rfl, same⟩
          | ok _ =>
              obtain ⟨error, failed⟩ | ⟨after, replaced, -, written⟩ :=
                replaceFile_cases validate target text prepared
              · exact .inl ⟨error, prepared, failed, same⟩
              · exact .inr ⟨prepared, after, replaced, rfl, same, written⟩

/-- What the writing of an output needs. -/
theorem writeOutput_of_ok {prepared : Tree} {staging : Location}
    (allowed : isForbidden mode target tree = .ok false)
    (made : tree.makeDirectories target.parent = (.ok (), prepared))
    (staged : stagingPlace prepared target maxTries 0 = .ok staging)
    (checked : checkOutput validate text = .ok ())
    (written : prepared.writeFile target (.text text) = .ok after) :
    writeOutput mode validate target text tree = (.ok (), after) := by
  obtain ⟨parent, name, rfl, isDirectory, free⟩ := stagingPlace_eq_ok staged
  unfold writeOutput
  rw [allowed, made]
  dsimp only
  unfold replaceFile
  rw [staged]
  dsimp only
  rw [checked, moveFile_set isDirectory free, written]

/-- An output that is not written changes no file. -/
theorem fileAt?_of_not_written {error : OutputError}
    (failed : writeOutput mode validate target text tree = (.error error, after)) :
    after.fileAt? = tree.fileAt? := by
  obtain ⟨_, _, same, unchanged⟩ | ⟨_, _, same, -⟩ :=
    writeOutput_cases mode validate target text tree
  · rw [same] at failed
    cases failed
    exact unchanged
  · rw [same] at failed
    cases failed

theorem writeOutput_eq_ok (written : writeOutput mode validate target text tree = (.ok (), after)) :
    isForbidden mode target tree = .ok false ∧
      ∃ prepared : Tree, prepared.fileAt? = tree.fileAt? ∧
        prepared.writeFile target (.text text) = .ok after := by
  obtain ⟨_, _, same, -⟩ | ⟨prepared, _, same, allowed, unchanged, replaced⟩ :=
    writeOutput_cases mode validate target text tree
  · rw [same] at written
    cases written
  · rw [same] at written
    cases written
    exact ⟨allowed, prepared, unchanged, replaced⟩

/-- A written output is the only file that changes. -/
theorem fileAt?_of_written (settled : ".." ∉ target) (named : target ≠ [])
    (written : writeOutput mode validate target text tree = (.ok (), after)) (other : Location) :
    after.fileAt? other = if other = target then some (.text text) else tree.fileAt? other := by
  obtain ⟨-, prepared, unchanged, replaced⟩ := writeOutput_eq_ok written
  rw [← unchanged]
  exact fileAt?_writeFile settled named replaced other

/-- Unless it is forced, an output is written only where no file was. -/
theorem fileAt?_of_unforced (settled : ".." ∉ target)
    (written : writeOutput .errorIfExists validate target text tree = (.ok (), after)) :
    tree.fileAt? target = none := by
  obtain ⟨allowed, prepared, -, replaced⟩ := writeOutput_eq_ok written
  obtain ⟨here, found, -, -⟩ := writeFile_eq_ok replaced
  refine fileAt?_of_find? settled (place_eq_ok found).1 ?_
  unfold isForbidden at allowed
  cases there : tree.find? target with
  | error error =>
      rw [there] at allowed
      cases allowed
  | ok found? =>
      rw [there] at allowed
      cases found? with
      | none => rfl
      | some child => cases allowed

end DartModels.Project
