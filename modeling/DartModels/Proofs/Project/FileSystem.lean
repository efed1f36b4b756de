import DartModels.Project.FileSystem
import DartModels.Proofs.Checked
import DartModels.Proofs.Project.Tree

/-
Where a location leads, and which files the operations of the file system change.
-/

namespace DartModels.Project.Tree

variable {tree after : Tree} {location here next : Location} {name : String}

theorem isDirectory_of_not_isFile (noFile : tree.isFile here = false)
    (found : tree.contains here = true) : tree.isDirectory here = true := by
  obtain ⟨there, found⟩ := Option.isSome_iff_exists.mp found
  cases there with
  | file content => simp [isFile, found] at noFile
  | directory entries => exact isDirectory_iff.mpr ⟨entries, found⟩

/-! The walk along a location -/

/-- Only a directory leads on: to the one above it or to a name in it. -/
theorem goOn_eq_ok (moved : tree.goOn here name = .ok next) :
    tree.isDirectory here = true ∧
      (name = ".." ∧ next = here.parent ∨ name ≠ ".." ∧ next = here ++ [name]) := by
  unfold goOn at moved
  split at moved
  · cases moved
  next noFile =>
    split at moved
    · cases moved
    next found =>
      rw [Bool.not_eq_true] at noFile
      rw [Bool.not_eq_true, Bool.not_eq_false'] at found
      refine ⟨isDirectory_of_not_isFile noFile found, ?_⟩
      split at moved
      next up => exact .inl ⟨up, (Except.ok.inj moved).symm⟩
      next down =>
        split at moved
        · cases moved
        · exact .inr ⟨down, (Except.ok.inj moved).symm⟩

theorem place_eq_ok (found : tree.place location = .ok here) :
    location.checkText = .ok () ∧ location.foldlM tree.goOn [] = .ok here := by
  obtain ⟨_, checked, walked⟩ := bind_eq_ok.mp found
  exact ⟨checked, walked⟩

/-- The root of the tree, or a place in a directory that is there. -/
def Reached (tree : Tree) (here : Location) : Prop :=
  here = [] ∨ ∃ parent name, here = parent ++ [name] ∧ tree.isDirectory parent = true

theorem Reached.of_contains (found : tree.contains here = true) : tree.Reached here := by
  rcases here.eq_nil_or_concat with top | ⟨parent, name, below⟩
  · exact .inl top
  · rw [List.concat_eq_append] at below
    rw [below] at found
    exact .inr ⟨parent, name, below, isDirectory_of_contains found⟩

theorem Reached.goOn (moved : tree.goOn here name = .ok next) : tree.Reached next := by
  obtain ⟨isDirectory, ⟨-, rfl⟩ | ⟨-, rfl⟩⟩ := goOn_eq_ok moved
  · exact .of_contains (contains_of_isDirectory (isDirectory_dropLast isDirectory))
  · exact .inr ⟨here, name, rfl, isDirectory⟩

theorem Reached.foldlM (reached : tree.Reached here)
    (walked : location.foldlM tree.goOn here = .ok next) : tree.Reached next := by
  induction location generalizing here with
  | nil =>
      cases walked
      exact reached
  | cons name location ih =>
      rw [List.foldlM_cons] at walked
      obtain ⟨middle, moved, walked⟩ := bind_eq_ok.mp walked
      exact ih (.goOn moved) walked

theorem reached_of_place (found : tree.place location = .ok here) : tree.Reached here :=
  .foldlM (.inl rfl) (place_eq_ok found).2

/-- Without a name that leads back up, a location is its own place. -/
theorem foldlM_goOn_eq (settled : ".." ∉ location)
    (walked : location.foldlM tree.goOn here = .ok next) : next = here ++ location := by
  induction location generalizing here with
  | nil =>
      cases walked
      rw [List.append_nil]
  | cons name location ih =>
      rw [List.mem_cons, not_or] at settled
      rw [List.foldlM_cons] at walked
      obtain ⟨middle, moved, walked⟩ := bind_eq_ok.mp walked
      obtain ⟨-, ⟨up, -⟩ | ⟨-, rfl⟩⟩ := goOn_eq_ok moved
      · exact absurd up.symm settled.1
      · rw [ih settled.2 walked, List.append_assoc, List.singleton_append]

theorem place_eq_self (settled : ".." ∉ location) (found : tree.place location = .ok here) :
    here = location :=
  foldlM_goOn_eq settled (place_eq_ok found).2

/-- The way to something that is there is blocked by nothing but the size of a name. -/
theorem foldlM_goOn_of_contains (settled : ".." ∉ location)
    (there : tree.contains (here ++ location) = true) :
    location.foldlM tree.goOn here = .ok (here ++ location) ∨
      location.foldlM tree.goOn here = .error .nameTooLong := by
  induction location generalizing here with
  | nil =>
      rw [List.append_nil]
      exact .inl rfl
  | cons name location ih =>
      rw [List.mem_cons, not_or] at settled
      -- What lies below makes a directory of `here`, so only the size of the name can stop the walk.
      obtain ⟨entries, found⟩ := isDirectory_iff.mp (isDirectory_of_contains there)
      have step : tree.goOn here name =
          if maxNameSize < name.utf8ByteSize then .error .nameTooLong else .ok (here ++ [name]) := by
        simp [goOn, isFile, contains, found, Ne.symm settled.1]
      rw [List.foldlM_cons, step]
      split
      · exact .inr rfl
      · rw [List.append_cons here name location] at there ⊢
        exact ih settled.2 there

/-- Nothing is found only where there is no file. -/
theorem fileAt?_of_find? (settled : ".." ∉ location) (textual : location.checkText = .ok ())
    (nothing : tree.find? location = .ok none) : tree.fileAt? location = none := by
  have walk : tree.place location = location.foldlM tree.goOn [] := by
    rw [place, textual]
    rfl
  unfold find? at nothing
  cases there : tree.get? location with
  | none => rw [fileAt?, there]
  | some child =>
      have contained : tree.contains ([] ++ location) = true := by
        rw [List.nil_append, contains, there]
        rfl
      rcases foldlM_goOn_of_contains settled contained with walked | walked
      · rw [walk, walked] at nothing
        simp [there] at nothing
      · rw [walk, walked] at nothing
        cases nothing

/-- A search along a settled way answers whether a file is at its end. -/
theorem leadsToFile_eq_ok (settled : ".." ∉ location) (textual : location.checkText = .ok ())
    {found : Bool} (answered : tree.leadsToFile location = .ok found) :
    found = (tree.fileAt? location).isSome := by
  obtain ⟨there, searched, answered⟩ := bind_eq_ok.mp answered
  cases there with
  | none =>
      cases answered
      rw [fileAt?_of_find? settled textual searched]
      rfl
  | some child =>
      unfold find? at searched
      split at searched
      next here reached =>
        obtain rfl := place_eq_self settled reached
        rw [fileAt?, Except.ok.inj searched]
        cases child with
        | file content =>
            cases answered
            rfl
        | directory entries =>
            cases answered
            rfl
      · cases searched
      · cases searched

/-! Files -/

theorem writeFile_eq_ok {content : Content} (written : tree.writeFile location content = .ok after) :
    ∃ here, tree.place location = .ok here ∧ tree.isDirectory here = false ∧
      after = tree.set here (.file content) := by
  unfold writeFile at written
  split at written
  · cases written
  next here found =>
    split at written
    · cases written
    next free => exact ⟨here, found, Bool.not_eq_true _ ▸ free, (Except.ok.inj written).symm⟩

/-- A written file is the only change. -/
theorem fileAt?_writeFile {content : Content} (settled : ".." ∉ location)
    (named : location ≠ []) (written : tree.writeFile location content = .ok after)
    (other : Location) :
    after.fileAt? other = if other = location then some content else tree.fileAt? other := by
  obtain ⟨here, found, free, rfl⟩ := writeFile_eq_ok written
  obtain rfl := place_eq_self settled found
  rcases reached_of_place found with rfl | ⟨parent, name, rfl, isDirectory⟩
  · contradiction
  · exact fileAt?_set_file isDirectory free content

/-- A file goes to its location as if it were written there. -/
theorem moveFile_set {parent target : Location} {content : Content}
    (isDirectory : tree.isDirectory parent = true)
    (free : tree.contains (parent ++ [name]) = false) :
    (tree.set (parent ++ [name]) (.file content)).moveFile (parent ++ [name]) target =
      tree.writeFile target content := by
  have there : (tree.set (parent ++ [name]) (.file content)).get? (parent ++ [name]) =
      some (file content) := get?_set isDirectory []
  have source : (tree.set (parent ++ [name]) (.file content)).content (parent ++ [name]) =
      .ok content := by rw [Tree.content, there]
  rw [moveFile, source, remove_set isDirectory free]
  rfl

end DartModels.Project.Tree
