import DartModels.Project.Tree

/-
The files of a tree, and which of them change when something is put into it or taken away.
-/

namespace DartModels.Project

/-- What stands at a location, whatever is below it. -/
inductive Entry where
  | file (content : Content)
  | directory
  deriving DecidableEq

namespace Tree

/-- The content of the file at a location, if there is one. -/
def fileAt? (tree : Tree) (location : Location) : Option Content :=
  match tree.get? location with
  | some (.file content) => some content
  | _ => none

def entry : Tree → Entry
  | .file content => .file content
  | .directory _ => .directory

def entryAt? (tree : Tree) (location : Location) : Option Entry := (tree.get? location).map entry

theorem entryAt?_of_get? {tree other : Tree} {location place : Location}
    (same : tree.get? location = other.get? place) :
    tree.entryAt? location = other.entryAt? place := by
  rw [entryAt?, same, entryAt?]

/-- The entries of a tree tell its files. -/
theorem fileAt?_eq_some_iff {tree : Tree} {location : Location} {content : Content} :
    tree.fileAt? location = some content ↔ tree.entryAt? location = some (.file content) := by
  rw [fileAt?, entryAt?]
  cases tree.get? location with
  | none => simp
  | some found => cases found <;> simp [entry]

theorem isDirectory_iff {tree : Tree} {location : Location} :
    tree.isDirectory location = true ↔
      ∃ entries, tree.get? location = some (.directory entries) := by
  unfold isDirectory
  split
  next entries found => simp [found]
  next other => simpa using other

/-- The entries of a tree tell its directories. -/
theorem isDirectory_iff_entryAt? {tree : Tree} {location : Location} :
    tree.isDirectory location = true ↔ tree.entryAt? location = some .directory := by
  rw [isDirectory, entryAt?]
  cases tree.get? location with
  | none => simp
  | some found => cases found <;> simp [entry]

theorem fileAt?_of_isDirectory {tree : Tree} {location : Location}
    (isDirectory : tree.isDirectory location = true) : tree.fileAt? location = none := by
  rw [Option.eq_none_iff_forall_ne_some]
  intro content file
  rw [fileAt?_eq_some_iff, isDirectory_iff_entryAt?.mp isDirectory] at file
  cases file

theorem contains_eq_isSome_entryAt? (tree : Tree) (location : Location) :
    tree.contains location = (tree.entryAt? location).isSome := by
  rw [contains, entryAt?, Option.isSome_map]

theorem isFile_iff {tree : Tree} {location : Location} :
    tree.isFile location = true ↔ ∃ content, tree.fileAt? location = some content := by
  rw [isFile, fileAt?]
  cases tree.get? location with
  | none => simp
  | some found => cases found <;> simp

theorem contains_of_fileAt? {tree : Tree} {location : Location} {content : Content}
    (file : tree.fileAt? location = some content) : tree.contains location = true := by
  rw [contains_eq_isSome_entryAt?, fileAt?_eq_some_iff.mp file]
  rfl

theorem get?_append (tree : Tree) (way rest : Location) :
    tree.get? (way ++ rest) = (tree.get? way).bind fun found => found.get? rest := by
  induction way generalizing tree with
  | nil => simp [get?]
  | cons name way ih =>
      cases tree with
      | file content => simp [get?]
      | directory entries =>
          rw [List.cons_append, get?, get?]
          cases entries.lookup name with
          | none => rfl
          | some child => exact ih child

/-- What lies below a location makes it a directory. -/
theorem isDirectory_of_contains {tree : Tree} {way rest : Location} {name : String}
    (found : tree.contains (way ++ name :: rest) = true) : tree.isDirectory way = true := by
  rw [contains, get?_append] at found
  rw [isDirectory_iff]
  cases here : tree.get? way with
  | none => simp [here] at found
  | some child =>
      cases child with
      | file content => simp [here, get?] at found
      | directory entries => exact ⟨entries, rfl⟩

theorem contains_of_isDirectory {tree : Tree} {location : Location}
    (found : tree.isDirectory location = true) : tree.contains location = true := by
  obtain ⟨entries, found⟩ := isDirectory_iff.mp found
  simp [contains, found]

theorem isDirectory_of_append {tree : Tree} {way rest : Location}
    (found : tree.isDirectory (way ++ rest) = true) : tree.isDirectory way = true := by
  cases rest with
  | nil => rwa [List.append_nil] at found
  | cons name rest => exact isDirectory_of_contains (contains_of_isDirectory found)

theorem isDirectory_dropLast {tree : Tree} {location : Location}
    (found : tree.isDirectory location = true) : tree.isDirectory location.dropLast = true := by
  obtain ⟨rest, same⟩ := location.dropLast_prefix
  rw [← same] at found
  exact isDirectory_of_append found

/-! Entries of directories -/

theorem lookup_setEntry (name other : String) (child : Tree) (entries : List (String × Tree)) :
    (setEntry name child entries).lookup other =
      if other = name then some child else entries.lookup other := by
  induction entries with
  | nil =>
      by_cases here : other = name
      · simp [setEntry, here]
      · simp [setEntry, List.lookup_cons, here, beq_eq_false_iff_ne.mpr here]
  | cons entry entries ih =>
      obtain ⟨known, old⟩ := entry
      rw [setEntry]
      split
      next same =>
        subst same
        by_cases here : other = known
        · simp [here]
        · simp [List.lookup_cons, here, beq_eq_false_iff_ne.mpr here]
      next different =>
        by_cases here : other = known
        · simp [here, different]
        · simp [List.lookup_cons, ih, beq_eq_false_iff_ne.mpr here]

theorem setEntry_of_lookup {name : String} {child : Tree} {entries : List (String × Tree)}
    (found : entries.lookup name = some child) (other : Tree) :
    setEntry name child (setEntry name other entries) = entries := by
  induction entries with
  | nil => cases found
  | cons entry entries ih =>
      obtain ⟨known, old⟩ := entry
      rw [setEntry]
      by_cases same : known = name
      · subst same
        simp only [List.lookup_cons, beq_self_eq_true, Option.some_inj] at found
        simp [setEntry, found]
      · have later : name ≠ known := Ne.symm same
        simp only [List.lookup_cons, beq_eq_false_iff_ne.mpr later] at found
        simp [setEntry, same, ih found]

theorem setEntry_setEntry (name : String) (child later : Tree) (entries : List (String × Tree)) :
    setEntry name later (setEntry name child entries) = setEntry name later entries := by
  induction entries with
  | nil => simp [setEntry]
  | cons entry entries ih =>
      obtain ⟨known, old⟩ := entry
      by_cases same : known = name
      · simp [setEntry, same]
      · simp [setEntry, same, ih]

/-- A fresh entry can be taken away again. -/
theorem filter_setEntry {name : String} {entries : List (String × Tree)}
    (fresh : entries.lookup name = none) (child : Tree) :
    ((setEntry name child entries).filter fun entry => entry.1 != name) = entries := by
  induction entries with
  | nil => simp [setEntry]
  | cons entry entries ih =>
      obtain ⟨known, old⟩ := entry
      by_cases same : name = known
      · simp [same] at fresh
      · simp only [List.lookup_cons, beq_eq_false_iff_ne.mpr same] at fresh
        simp [setEntry, Ne.symm same, ih fresh]

/-! What is put at a location -/

/-- What is put at a location again stays alone there. -/
theorem set_set (tree new later : Tree) (location : Location) :
    (tree.set location new).set location later = tree.set location later := by
  induction location generalizing tree with
  | nil => rfl
  | cons name rest ih =>
      cases tree with
      | file content => rfl
      | directory entries => simp [set, lookup_setEntry, setEntry_setEntry, ih]

variable {tree new : Tree} {parent location : Location} {name : String}

theorem get?_set (isDirectory : tree.isDirectory parent = true) (rest : Location) :
    (tree.set (parent ++ [name]) new).get? (parent ++ name :: rest) = new.get? rest := by
  induction parent generalizing tree with
  | nil =>
      obtain ⟨entries, found⟩ := isDirectory_iff.mp isDirectory
      cases found
      simp [set, get?, lookup_setEntry]
  | cons first parent ih =>
      obtain ⟨entries, found⟩ := isDirectory_iff.mp isDirectory
      cases tree with
      | file content => cases found
      | directory entries =>
          rw [get?] at found
          split at found
          next child here =>
            have below := ih (isDirectory_iff.mpr ⟨_, found⟩)
            simpa [set, get?, lookup_setEntry, here] using below
          next => cases found

/-- What stands elsewhere stays as it is. -/
theorem entryAt?_set_elsewhere (isDirectory : tree.isDirectory parent = true)
    (elsewhere : ¬parent ++ [name] <+: location) :
    (tree.set (parent ++ [name]) new).entryAt? location = tree.entryAt? location := by
  induction parent generalizing tree location with
  | nil =>
      obtain ⟨entries, found⟩ := isDirectory_iff.mp isDirectory
      cases found
      cases location with
      | nil => rfl
      | cons first rest =>
          have other : first ≠ name := by
            rintro rfl
            exact elsewhere ⟨rest, rfl⟩
          apply entryAt?_of_get?
          simp [set, get?, lookup_setEntry, other]
  | cons first parent ih =>
      obtain ⟨entries, found⟩ := isDirectory_iff.mp isDirectory
      cases tree with
      | file content => cases found
      | directory entries =>
          rw [get?] at found
          split at found
          next child here =>
            cases location with
            | nil => rfl
            | cons second rest =>
                by_cases same : second = first
                · subst same
                  have apart : ¬parent ++ [name] <+: rest := fun below =>
                    elsewhere (List.cons_prefix_cons.mpr ⟨rfl, below⟩)
                  have below := ih (isDirectory_iff.mpr ⟨_, found⟩) apart
                  simpa [entryAt?, set, get?, lookup_setEntry, here] using below
                · apply entryAt?_of_get?
                  simp [set, get?, lookup_setEntry, same]
          next => cases found

/-- Where no directory was, something with nothing below it becomes the only change. -/
theorem entryAt?_set (isDirectory : tree.isDirectory parent = true)
    (free : tree.isDirectory (parent ++ [name]) = false)
    (bare : ∀ next rest, new.get? (next :: rest) = none) (location : Location) :
    (tree.set (parent ++ [name]) new).entryAt? location =
      if location = parent ++ [name] then some new.entry else tree.entryAt? location := by
  by_cases below : parent ++ [name] <+: location
  · obtain ⟨rest, rfl⟩ := below
    have there : (tree.set (parent ++ [name]) new).get? (parent ++ name :: rest) =
        new.get? rest := get?_set isDirectory rest
    rw [List.append_assoc, List.singleton_append, entryAt?, there]
    cases rest with
    | nil => simp [get?]
    | cons next rest =>
        have blocked : tree.contains (parent ++ [name] ++ next :: rest) ≠ true := fun found => by
          rw [isDirectory_of_contains found] at free
          cases free
        simp only [contains, Bool.not_eq_true, Option.isSome_eq_false_iff, Option.isNone_iff_eq_none,
          List.append_assoc, List.singleton_append] at blocked
        simp [bare, entryAt?, blocked]
  · have other : location ≠ parent ++ [name] := by
      rintro rfl
      exact below (List.prefix_refl _)
    rw [entryAt?_set_elsewhere isDirectory below, if_neg other]

/-- A file at a location that is no directory becomes the only change. -/
theorem entryAt?_set_file (isDirectory : tree.isDirectory parent = true)
    (free : tree.isDirectory (parent ++ [name]) = false) (content : Content)
    (location : Location) :
    (tree.set (parent ++ [name]) (.file content)).entryAt? location =
      if location = parent ++ [name] then some (.file content) else tree.entryAt? location :=
  entryAt?_set isDirectory free (fun _ _ => rfl) location

/-- An empty directory where nothing was becomes the only change. -/
theorem entryAt?_set_empty (isDirectory : tree.isDirectory parent = true)
    (free : tree.contains (parent ++ [name]) = false) (location : Location) :
    (tree.set (parent ++ [name]) empty).entryAt? location =
      if location = parent ++ [name] then some .directory else tree.entryAt? location := by
  refine entryAt?_set isDirectory ?_ (fun _ _ => rfl) location
  rw [Bool.eq_false_iff]
  intro found
  rw [contains_of_isDirectory found] at free
  cases free

theorem fileAt?_set_file (isDirectory : tree.isDirectory parent = true)
    (free : tree.isDirectory (parent ++ [name]) = false) (content : Content) :
    (tree.set (parent ++ [name]) (.file content)).fileAt? location =
      if location = parent ++ [name] then some content else tree.fileAt? location := by
  apply Option.ext
  intro other
  rw [fileAt?_eq_some_iff, entryAt?_set_file isDirectory free]
  split
  · simp
  · rw [fileAt?_eq_some_iff]

theorem fileAt?_set_empty (isDirectory : tree.isDirectory parent = true)
    (free : tree.contains (parent ++ [name]) = false) :
    (tree.set (parent ++ [name]) empty).fileAt? location = tree.fileAt? location := by
  apply Option.ext
  intro other
  rw [fileAt?_eq_some_iff, fileAt?_eq_some_iff, entryAt?_set_empty isDirectory free]
  split
  next here =>
    have missing : tree.entryAt? location = none := by
      rw [here, ← Option.isNone_iff_eq_none, ← Option.not_isSome,
        ← contains_eq_isSome_entryAt?, free]
      rfl
    rw [missing]
    simp
  next => rfl

/-- What is put where nothing was can be taken away again. -/
theorem remove_set (isDirectory : tree.isDirectory parent = true)
    (free : tree.contains (parent ++ [name]) = false) :
    (tree.set (parent ++ [name]) new).remove (parent ++ [name]) = tree := by
  induction parent generalizing tree with
  | nil =>
      obtain ⟨entries, found⟩ := isDirectory_iff.mp isDirectory
      cases found
      have fresh : entries.lookup name = none := by
        cases here : entries.lookup name with
        | none => rfl
        | some child => simp [contains, get?, here] at free
      simp [set, remove, filter_setEntry fresh]
  | cons first parent ih =>
      obtain ⟨entries, found⟩ := isDirectory_iff.mp isDirectory
      cases tree with
      | file content => cases found
      | directory entries =>
          rw [get?] at found
          split at found
          next child here =>
            have inner : child.contains (parent ++ [name]) = false := by
              simpa [contains, get?, here] using free
            have below := ih (isDirectory_iff.mpr ⟨_, found⟩) inner
            cases rest : parent ++ [name] with
            | nil => simp at rest
            | cons next later =>
                rw [rest] at below
                simp [set, remove, rest, lookup_setEntry, here, below, setEntry_of_lookup here]
          next => cases found

end Tree

end DartModels.Project
