import DartModels.Proofs.Project.FileSystem

/-
Trees that grow: what leads somewhere still does, and which directories are made on the way to a
location.
-/

namespace DartModels.Project.Tree

variable {tree middle after : Tree} {location here next : Location} {name : String}

/-! Walks in a tree that keeps its directories -/

/-- Every directory is still there. -/
def KeepsDirectories (tree after : Tree) : Prop :=
  ∀ here, tree.isDirectory here = true → after.isDirectory here = true

theorem KeepsDirectories.refl (tree : Tree) : KeepsDirectories tree tree := fun _ => id

theorem KeepsDirectories.trans (first : KeepsDirectories tree middle)
    (second : KeepsDirectories middle after) : KeepsDirectories tree after :=
  fun here found => second here (first here found)

/-- A directory leads on to every name that is not too long. -/
theorem goOn_of_isDirectory (isDirectory : tree.isDirectory here = true) :
    tree.goOn here name =
      if name = ".." then .ok here.parent
      else if maxNameSize < name.utf8ByteSize then .error .nameTooLong
      else .ok (here ++ [name]) := by
  obtain ⟨entries, found⟩ := isDirectory_iff.mp isDirectory
  simp [goOn, isFile, contains, found]

theorem KeepsDirectories.goOn (keeps : KeepsDirectories tree after)
    (moved : tree.goOn here name = .ok next) : after.goOn here name = .ok next := by
  have found := (goOn_eq_ok moved).1
  rw [goOn_of_isDirectory (keeps here found), ← goOn_of_isDirectory found, moved]

theorem KeepsDirectories.foldlM (keeps : KeepsDirectories tree after)
    (walked : location.foldlM tree.goOn here = .ok next) :
    location.foldlM after.goOn here = .ok next := by
  induction location generalizing here with
  | nil => exact walked
  | cons name location ih =>
      rw [List.foldlM_cons] at walked ⊢
      obtain ⟨middle, moved, walked⟩ := bind_eq_ok.mp walked
      rw [keeps.goOn moved]
      exact ih walked

/-- What a location leads to is where it was. -/
theorem KeepsDirectories.place (keeps : KeepsDirectories tree after)
    (found : tree.place location = .ok here) : after.place location = .ok here := by
  obtain ⟨textual, walked⟩ := place_eq_ok found
  rw [Tree.place, textual]
  exact keeps.foldlM walked

theorem KeepsDirectories.leadsToDirectory (keeps : KeepsDirectories tree after)
    (leads : tree.leadsToDirectory location = true) : after.leadsToDirectory location = true := by
  unfold Tree.leadsToDirectory at leads ⊢
  split at leads
  next here found =>
    rw [keeps.place found]
    exact keeps here leads
  next => cases leads

theorem keepsDirectories_set_file {parent : Location} (isDirectory : tree.isDirectory parent = true)
    (free : tree.isDirectory (parent ++ [name]) = false) (content : Content) :
    KeepsDirectories tree (tree.set (parent ++ [name]) (.file content)) := by
  intro here found
  rw [isDirectory_iff_entryAt?, entryAt?_set_file isDirectory free]
  split
  next same =>
    rw [same, free] at found
    cases found
  next => exact isDirectory_iff_entryAt?.mp found

theorem leadsToDirectory_iff :
    tree.leadsToDirectory location = true ↔
      ∃ here, tree.place location = .ok here ∧ tree.isDirectory here = true := by
  unfold leadsToDirectory
  cases tree.place location with
  | error kind => simp
  | ok here => simp

/-! Directories on the way -/

theorem makeDirectory_eq_ok (made : tree.makeDirectory location = .ok after) :
    ∃ parent name, tree.place location = .ok (parent ++ [name]) ∧
      tree.isDirectory parent = true ∧ tree.contains (parent ++ [name]) = false ∧
      after = tree.set (parent ++ [name]) empty := by
  obtain ⟨here, found, made⟩ := bind_eq_ok.mp made
  split at made
  · cases made
  next free =>
    cases made
    rw [Bool.not_eq_true] at free
    rcases reached_of_place found with rfl | ⟨parent, name, rfl, isDirectory⟩
    · cases free
    · exact ⟨parent, name, found, isDirectory, free, rfl⟩

/-- Only directories were made, and each stands where the first names of the location lead. -/
structure DirectoriesMade (location : Location) (tree after : Tree) : Prop where
  files : after.fileAt? = tree.fileAt?
  kept : KeepsDirectories tree after
  onTheWay : ∀ here, after.isDirectory here = true →
    tree.isDirectory here = true ∨ ∃ count, after.place (location.take count) = .ok here

theorem DirectoriesMade.refl (location : Location) (tree : Tree) :
    DirectoriesMade location tree tree :=
  ⟨rfl, .refl tree, fun _ => .inl⟩

theorem DirectoriesMade.trans (first : DirectoriesMade location tree middle)
    (second : DirectoriesMade location middle after) : DirectoriesMade location tree after where
  files := second.files.trans first.files
  kept := first.kept.trans second.kept
  onTheWay here found := by
    rcases second.onTheWay here found with old | made
    · rcases first.onTheWay here old with older | ⟨count, leads⟩
      · exact .inl older
      · exact .inr ⟨count, second.kept.place leads⟩
    · exact .inr made

theorem directoriesMade_makeDirectory {count : Nat}
    (made : tree.makeDirectory (location.take count) = .ok after) :
    DirectoriesMade location tree after := by
  obtain ⟨parent, name, leads, isDirectory, free, rfl⟩ := makeDirectory_eq_ok made
  have entries := entryAt?_set_empty isDirectory free
  have kept : KeepsDirectories tree (tree.set (parent ++ [name]) empty) := by
    intro here found
    rw [isDirectory_iff_entryAt?] at found ⊢
    rw [entries, found, ite_self]
  refine ⟨?_, kept, ?_⟩
  · funext here
    exact fileAt?_set_empty isDirectory free
  · intro here found
    rw [isDirectory_iff_entryAt?, entries] at found
    split at found
    next new =>
      subst new
      exact .inr ⟨count, kept.place leads⟩
    next => exact .inl (isDirectory_iff_entryAt?.mpr found)

theorem directoriesMade_ensureDirectory (tree : Tree) (location : Location) (count : Nat) :
    DirectoriesMade location tree (tree.ensureDirectory (location.take count)).2 := by
  unfold ensureDirectory
  split
  next made => exact directoriesMade_makeDirectory made
  · exact .refl location tree

theorem directoriesMade_makeFirst (tree : Tree) (location : Location) (count : Nat) :
    DirectoriesMade location tree (tree.makeFirst location count).2 := by
  induction count with
  | zero => exact .refl location tree
  | succ count ih =>
      rw [makeFirst]
      split
      · split
        next prepared made =>
          rw [made] at ih
          exact ih.trans (directoriesMade_ensureDirectory prepared location _)
        next => exact ih
      · exact directoriesMade_ensureDirectory tree location _

theorem directoriesMade_makeDirectories (tree : Tree) (location : Location) :
    DirectoriesMade location tree (tree.makeDirectories location).2 :=
  directoriesMade_makeFirst tree location location.length

/-- Directories are made without a change to any file, also when their way is blocked. -/
theorem fileAt?_makeDirectories (tree : Tree) (location : Location) :
    (tree.makeDirectories location).2.fileAt? = tree.fileAt? :=
  (directoriesMade_makeDirectories tree location).files

/-! Directories that are there in the end -/

theorem makeDirectory_of_leadsToDirectory (leads : tree.leadsToDirectory location = true) :
    tree.makeDirectory location = .error .alreadyExists := by
  obtain ⟨here, found, isDirectory⟩ := leadsToDirectory_iff.mp leads
  rw [makeDirectory, found]
  simp only [bind, Except.bind, contains_of_isDirectory isDirectory, if_true]
  rfl

theorem ensureDirectory_of_leadsToDirectory (leads : tree.leadsToDirectory location = true) :
    tree.ensureDirectory location = (.ok (), tree) := by
  rw [ensureDirectory, makeDirectory_of_leadsToDirectory leads]
  simp only [leads, if_true]

theorem ensureDirectory_eq_ok (ok : tree.ensureDirectory location = (.ok (), after)) :
    after.leadsToDirectory location = true := by
  unfold ensureDirectory at ok
  split at ok
  next made found =>
    obtain rfl := (Prod.mk.inj ok).2
    obtain ⟨parent, name, leads, isDirectory, free, rfl⟩ := makeDirectory_eq_ok found
    rw [← List.take_length (l := location)] at found
    refine leadsToDirectory_iff.mpr ⟨_, (directoriesMade_makeDirectory found).kept.place leads, ?_⟩
    rw [isDirectory_iff_entryAt?, entryAt?_set_empty isDirectory free, if_pos rfl]
  next =>
    split at ok
    next leads =>
      obtain rfl := (Prod.mk.inj ok).2
      exact leads
    next => cases ok

theorem ensureDirectory_eq_error {error : FileError}
    (failed : tree.ensureDirectory location = (.error error, after)) : after = tree := by
  unfold ensureDirectory at failed
  split at failed
  · cases failed
  · exact (Prod.mk.inj failed).2.symm

/-- Directories are made up to the last one. -/
theorem makeFirst_eq_ok {count : Nat}
    (ok : tree.makeFirst location (count + 1) = (.ok (), after)) :
    after.leadsToDirectory (location.take (count + 1)) = true := by
  rw [makeFirst] at ok
  split at ok
  · split at ok
    · exact ensureDirectory_eq_ok ok
    next blocked =>
      exact absurd ok (blocked after)
  · exact ensureDirectory_eq_ok ok

theorem makeDirectories_eq_ok (filled : location ≠ [])
    (ok : tree.makeDirectories location = (.ok (), after)) :
    after.leadsToDirectory location = true := by
  have some : location.length ≠ 0 := fun none => filled (List.length_eq_zero_iff.mp none)
  obtain ⟨count, size⟩ := Nat.exists_eq_add_one_of_ne_zero some
  rw [makeDirectories, size] at ok
  have leads := makeFirst_eq_ok ok
  rwa [← size, List.take_length] at leads

/-- Nothing is made where a directory is. -/
theorem makeDirectories_of_leadsToDirectory (leads : tree.leadsToDirectory location = true) :
    tree.makeDirectories location = (.ok (), tree) := by
  rw [makeDirectories]
  cases size : location.length with
  | zero => rfl
  | succ count =>
      rw [makeFirst, ← size, List.take_length, makeDirectory_of_leadsToDirectory leads]
      exact ensureDirectory_of_leadsToDirectory leads

/-! Plain ways -/

/-- No name leads back up or is too long. -/
def IsPlain (location : Location) : Prop :=
  ∀ name ∈ location, name ≠ ".." ∧ name.utf8ByteSize ≤ maxNameSize

theorem place_append (textual : Location.checkText (location ++ [name]) = .ok ())
    (leads : tree.place location = .ok here) :
    tree.place (location ++ [name]) = tree.goOn here name := by
  obtain ⟨-, walked⟩ := place_eq_ok leads
  rw [place, textual, List.foldlM_append, walked]
  exact bind_pure (tree.goOn here name)

theorem makeDirectory_eq_notFound (missing : tree.makeDirectory location = .error .notFound) :
    location.checkText = .ok () ∧ location.foldlM tree.goOn [] = .error .notFound := by
  have lost : tree.place location = .error .notFound := by
    rw [makeDirectory] at missing
    cases found : tree.place location with
    | error kind =>
        rw [found] at missing
        cases missing
        rfl
    | ok here =>
        rw [found] at missing
        simp only [bind, Except.bind] at missing
        split at missing <;> cases missing
  rw [place] at lost
  cases textual : location.checkText with
  | ok _ =>
      rw [textual] at lost
      exact ⟨rfl, lost⟩
  | error kind =>
      rw [textual] at lost
      cases lost
      unfold Location.checkText at textual
      split at textual
      · cases textual
      · split at textual <;> cases textual

/-- The root is never missing. -/
theorem goOn_nil_ne_notFound : tree.goOn [] name ≠ .error .notFound := by
  cases tree with
  | file content => nofun
  | directory entries =>
      rw [goOn_of_isDirectory rfl]
      split
      · nofun
      · split <;> nofun

/-- Along a plain way a missing directory can be made once the one above it is there. -/
theorem ensureDirectory_append {prepared : Tree} (plain : IsPlain (location ++ [name]))
    (missing : tree.makeDirectory (location ++ [name]) = .error .notFound)
    (files : prepared.fileAt? = tree.fileAt?)
    (leads : prepared.leadsToDirectory location = true) :
    (prepared.ensureDirectory (location ++ [name])).1 = .ok () := by
  obtain ⟨textual, lost⟩ := makeDirectory_eq_notFound missing
  have settled : ".." ∉ location ++ [name] := fun up => (plain _ up).1 rfl
  have absent : tree.contains (location ++ [name]) = false := by
    rw [Bool.eq_false_iff]
    intro there
    have below : tree.contains ([] ++ (location ++ [name])) = true := there
    rcases foldlM_goOn_of_contains settled below with walked | walked
    · rw [lost] at walked
      cases walked
    · rw [lost] at walked
      cases walked
  obtain ⟨here, found, isDirectory⟩ := leadsToDirectory_iff.mp leads
  obtain rfl : here = location :=
    place_eq_self (fun up => settled (List.mem_append_left _ up)) found
  obtain ⟨down, short⟩ := plain name (List.mem_append_right _ List.mem_cons_self)
  have reached : prepared.place (here ++ [name]) = .ok (here ++ [name]) := by
    rw [place_append textual found, goOn_of_isDirectory isDirectory, if_neg down,
      if_neg (Nat.not_lt.mpr short)]
  cases there : prepared.contains (here ++ [name]) with
  | true =>
      have noFile : prepared.isFile (here ++ [name]) = false := by
        rw [Bool.eq_false_iff]
        intro isFile
        obtain ⟨content, file⟩ := isFile_iff.mp isFile
        rw [files] at file
        rw [contains_of_fileAt? file] at absent
        cases absent
      have leads : prepared.leadsToDirectory (here ++ [name]) = true :=
        leadsToDirectory_iff.mpr ⟨_, reached, isDirectory_of_not_isFile noFile there⟩
      rw [ensureDirectory_of_leadsToDirectory leads]
  | false =>
      have made : prepared.makeDirectory (here ++ [name]) =
          .ok (prepared.set (here ++ [name]) empty) := by
        rw [makeDirectory, reached]
        simp only [bind, Except.bind, there, Bool.false_eq_true, if_false]
        rfl
      rw [ensureDirectory, made]

theorem makeFirst_eq_error {count : Nat} {error : FileError} (plain : IsPlain location)
    (within : count ≤ location.length)
    (failed : tree.makeFirst location count = (.error error, after)) : after = tree := by
  induction count generalizing error after with
  | zero => cases failed
  | succ count ih =>
      have longer : location.take (count + 1) = location.take count ++ [location[count]] :=
        List.take_succ_eq_append_getElem within
      have plainWay : IsPlain (location.take (count + 1)) := fun name member =>
        plain name (List.mem_of_mem_take member)
      rw [makeFirst] at failed
      split at failed
      next missing =>
        split at failed
        next prepared made =>
          -- The directory above was made, so this one can be made as well.
          cases count with
          | zero =>
              rw [longer] at missing
              have lost := (makeDirectory_eq_notFound missing).2
              rw [List.take_zero, List.nil_append, List.foldlM_cons] at lost
              have first := (bind_pure (tree.goOn [] location[0])).symm.trans lost
              exact absurd first goOn_nil_ne_notFound
          | succ count =>
              have files : prepared.fileAt? = tree.fileAt? := by
                have grown := directoriesMade_makeFirst tree location (count + 1)
                rw [made] at grown
                exact grown.files
              rw [longer] at plainWay missing failed
              have completed := ensureDirectory_append plainWay missing files (makeFirst_eq_ok made)
              rw [failed] at completed
              cases completed
        next => exact ih (Nat.le_of_succ_le within) failed
      next => exact ensureDirectory_eq_error failed

/-- On a plain way nothing is made unless everything is. -/
theorem makeDirectories_eq_error {error : FileError} (plain : IsPlain location)
    (failed : tree.makeDirectories location = (.error error, after)) : after = tree :=
  makeFirst_eq_error plain (Nat.le_refl _) failed

end DartModels.Project.Tree
