import DartModels.Proofs.Project.AllOrNothing
import DartModels.Proofs.Project.Flutter

/-
What is found, made and written in a tree is found there again, and nothing new is made.
-/

namespace DartModels.Project

open DartModels.Dart
open DartModels.Project.Tree

namespace Tree

variable {tree middle after : Tree} {location here parent : Location} {name : String}

/-! Trees that keep what they have -/

/-- Directories and files are still there, the files perhaps with another content. -/
structure Keeps (tree after : Tree) : Prop where
  directories : KeepsDirectories tree after
  files : ∀ here, tree.isFile here = true → after.isFile here = true

namespace Keeps

theorem refl (tree : Tree) : Keeps tree tree := ⟨.refl tree, fun _ => id⟩

theorem trans (first : Keeps tree middle) (second : Keeps middle after) : Keeps tree after where
  directories := first.directories.trans second.directories
  files here found := second.files here (first.files here found)

theorem of_directoriesMade (made : DirectoriesMade location tree after) : Keeps tree after where
  directories := made.kept
  files here found := by
    rw [isFile_iff] at found ⊢
    rwa [made.files]

theorem of_set_file (isDirectory : tree.isDirectory parent = true)
    (free : tree.isDirectory (parent ++ [name]) = false) (content : Content) :
    Keeps tree (tree.set (parent ++ [name]) (.file content)) where
  directories := keepsDirectories_set_file isDirectory free content
  files here found := by
    rw [isFile_iff] at found ⊢
    rw [fileAt?_set_file isDirectory free]
    split
    · exact ⟨content, rfl⟩
    · exact found

theorem contains (keeps : Keeps tree after) (found : tree.contains location = true) :
    after.contains location = true := by
  cases file : tree.isFile location with
  | true =>
      obtain ⟨content, there⟩ := isFile_iff.mp (keeps.files location file)
      exact contains_of_fileAt? there
  | false =>
      have isDirectory := isDirectory_of_not_isFile file found
      exact contains_of_isDirectory (keeps.directories location isDirectory)

/-- What was found at the end of a way is there still. -/
theorem find? (keeps : Keeps tree after) {child : Tree}
    (found : tree.find? location = .ok (some child)) :
    ∃ later, after.find? location = .ok (some later) := by
  unfold Tree.find? at found ⊢
  split at found
  next here reached =>
    rw [keeps.directories.place reached]
    have contained : tree.contains here = true := by
      rw [Tree.contains, Except.ok.inj found]
      rfl
    obtain ⟨later, there⟩ := Option.isSome_iff_exists.mp (keeps.contains contained)
    exact ⟨later, congrArg Except.ok there⟩
  · cases found
  · cases found

end Keeps

/-! Ways along directories that are there -/

/-- In a directory that its own way leads to, a short name has its own place. -/
theorem place_of_prefix {directory start : Location} (settled : ".." ∉ start)
    (reached : tree.place start = .ok start) (isDirectory : tree.isDirectory start = true)
    (above : directory <+: start) (down : name ≠ "..") (short : name.utf8ByteSize ≤ maxNameSize)
    (textual : Location.checkText (directory ++ [name]) = .ok ()) :
    tree.place (directory ++ [name]) = .ok (directory ++ [name]) := by
  obtain ⟨rest, rfl⟩ := above
  have walked := (place_eq_ok reached).2
  rw [List.foldlM_append] at walked
  obtain ⟨middle, way, -⟩ := bind_eq_ok.mp walked
  have own : middle = [] ++ directory :=
    foldlM_goOn_eq (fun up => settled (List.mem_append_left rest up)) way
  rw [List.nil_append] at own
  subst own
  rw [place, textual, List.foldlM_append, way]
  refine (bind_pure (tree.goOn middle name)).trans ?_
  rw [goOn_of_isDirectory (isDirectory_of_append isDirectory), if_neg down,
    if_neg (Nat.not_lt.mpr short)]

theorem leadsToFile_of_place (reached : tree.place location = .ok location) :
    tree.leadsToFile location = .ok (tree.fileAt? location).isSome := by
  rw [leadsToFile, find?, reached, fileAt?]
  cases there : tree.get? location with
  | none => simp only [bind, Except.bind, there]; rfl
  | some child => cases child <;> (simp only [bind, Except.bind, there]; rfl)

/-- What cannot be a location leads nowhere in any tree. -/
theorem leadsToFile_of_checkText {kind : FileError.Kind}
    (refused : location.checkText = .error kind) (tree after : Tree) :
    after.leadsToFile location = tree.leadsToFile location := by
  rw [leadsToFile, leadsToFile, find?, find?, place, place, refused]
  cases kind <;> rfl

end Tree

variable {tree after : Tree} {start : Location}

/-! The root of a project -/

theorem leadsToFile_again {location : Location} (settled : ".." ∉ location)
    (way : location.checkText = .ok () → after.place location = .ok location)
    (same : (after.fileAt? location).isSome = (tree.fileAt? location).isSome) {found : Bool}
    (answered : tree.leadsToFile location = .ok found) :
    after.leadsToFile location = .ok found := by
  cases textual : location.checkText with
  | error kind => rw [leadsToFile_of_checkText textual tree after, answered]
  | ok _ =>
      rw [leadsToFile_of_place (way textual), same, ← leadsToFile_eq_ok settled textual answered]

theorem findM?_again {Item Failure : Type} {check again : Item → Except Failure Bool}
    {items : List Item} {found? : Option Item}
    (same : ∀ item ∈ items, ∀ found, check item = .ok found → again item = .ok found)
    (searched : items.findM? check = .ok found?) : items.findM? again = .ok found? := by
  induction items with
  | nil => exact searched
  | cons first rest ih =>
      obtain ⟨own, others⟩ := List.forall_mem_cons.mp same
      obtain ⟨found, checked, searched⟩ := bind_eq_ok.mp searched
      refine bind_eq_ok.mpr ⟨found, own found checked, ?_⟩
      cases found with
      | true => exact searched
      | false => exact ih others searched

/-- No pubspec file has come or gone, so the root that is found from a directory is the same. -/
theorem projectRoot?_again {root? : Option Location} (settled : ".." ∉ start)
    (keeps : Keeps tree after) (reached : after.place start = .ok start)
    (isDirectory : after.isDirectory start = true)
    (pubspecs : ∀ directory : Location, (after.fileAt? (directory ++ [pubspecName])).isSome =
      (tree.fileAt? (directory ++ [pubspecName])).isSome)
    (found : projectRoot? tree start = .ok root?) : projectRoot? after start = .ok root? := by
  obtain ⟨origin, begun, searched⟩ := bind_eq_ok.mp found
  obtain ⟨isFile, led, same⟩ := bind_eq_ok.mp begun
  have noFile : (after.fileAt? start).isSome = (tree.fileAt? start).isSome := by
    have none := fileAt?_of_isDirectory isDirectory
    cases there : tree.fileAt? start with
    | none => rw [none]
    | some content =>
        obtain ⟨later, file⟩ := isFile_iff.mp (keeps.files start (isFile_iff.mpr ⟨content, there⟩))
        rw [none] at file
        cases file
  have above : origin <+: start := by
    cases same
    split
    · exact start.dropLast_prefix
    · exact List.prefix_refl start
  refine bind_eq_ok.mpr ⟨origin, bind_eq_ok.mpr ⟨isFile, ?_, same⟩, ?_⟩
  · exact leadsToFile_again settled (fun _ => reached) noFile led
  · refine findM?_again (fun directory member found held => ?_) searched
    have upper : directory <+: start := (mem_selfAndAbove.mp member).trans above
    have plain : ".." ∉ directory ++ [pubspecName] := by
      rw [List.mem_append, not_or]
      exact ⟨fun up => settled (upper.subset up), by decide⟩
    refine leadsToFile_again plain (fun textual => ?_) (pubspecs directory) held
    exact place_of_prefix settled reached isDirectory upper (by decide) (by decide) textual

/-! The converter module -/

/-- A converter module that is there is left alone. -/
theorem ensureConverter_of_find? {root : Location} {child : Tree}
    (there : tree.find? (converterLocation root) = .ok (some child)) :
    ensureConverter tree root = (.ok false, tree) := by
  rw [ensureConverter, there]

theorem keeps_writeFile {location : Location} {content : Content} (settled : ".." ∉ location)
    (named : location ≠ []) (written : tree.writeFile location content = .ok after) :
    Keeps tree after ∧ after.find? location = .ok (some (.file content)) := by
  obtain ⟨here, reached, free, rfl⟩ := writeFile_eq_ok written
  obtain rfl := place_eq_self settled reached
  obtain top | ⟨parent, name, rfl, isDirectory⟩ := reached_of_place reached
  · exact absurd top named
  · have keeps := Keeps.of_set_file isDirectory free content
    have there : (tree.set (parent ++ [name]) (.file content)).get? (parent ++ [name]) =
        some (.file content) := get?_set isDirectory []
    rw [find?, keeps.directories.place reached]
    exact ⟨keeps, congrArg Except.ok there⟩

/-- Once it was made sure of, the converter module is there. -/
theorem ensureConverter_eq_ok {root : Location} {created : Bool} (settled : ".." ∉ root)
    (ensured : ensureConverter tree root = (.ok created, after)) :
    Keeps tree after ∧ ∃ child, after.find? (converterLocation root) = .ok (some child) := by
  unfold ensureConverter at ensured
  dsimp only at ensured
  split at ensured
  · cases ensured
  next child there =>
    obtain rfl := (Prod.mk.inj ensured).2
    exact ⟨.refl tree, child, there⟩
  · split at ensured
    · cases ensured
    next prepared made =>
      split at ensured
      · cases ensured
      next written filed =>
        obtain rfl := (Prod.mk.inj ensured).2
        obtain ⟨kept, there⟩ := keeps_writeFile (settled_converterLocation settled)
          (converterLocation_ne_nil root) filed
        have grown := directoriesMade_makeDirectories tree (converterLocation root).parent
        rw [made] at grown
        exact ⟨(Keeps.of_directoriesMade grown).trans kept, _, there⟩

/-! The output -/

variable {target directory : Location} {mode : OutputMode} {validate : Bool} {text : String}
  {prepared : Tree}

theorem OutputSteps.keeps
    (steps : OutputSteps mode validate target text tree prepared directory after) :
    Keeps tree after := by
  have grown := directoriesMade_makeDirectories tree target.parent
  rw [steps.made] at grown
  rw [steps.written]
  exact (Keeps.of_directoriesMade grown).trans (.of_set_file steps.isDirectory steps.free _)

/-- The directory of an output without a way back up is the one that its location names. -/
theorem OutputSteps.directory_eq
    (steps : OutputSteps mode validate target text tree prepared directory after)
    (settled : ".." ∉ target.parent) :
    after.place target.parent = .ok target.parent ∧ after.isDirectory target.parent = true := by
  obtain rfl := place_eq_self settled steps.leads
  exact ⟨steps.kept.place steps.leads, steps.kept _ steps.isDirectory⟩

/-- A temporary file finds the same place beside the output as before it. -/
theorem stagingPlace_again
    (steps : OutputSteps mode validate target text tree prepared directory after)
    {tries mark : Nat} {staging : Location}
    (staged : stagingPlace prepared target tries mark = .ok staging) :
    stagingPlace after target tries mark = .ok staging := by
  induction tries generalizing mark with
  | zero => cases staged
  | succ tries ih =>
      rw [stagingPlace] at staged ⊢
      split at staged
      · cases staged
      next here found =>
        have reached := steps.kept.place found
        have same : after.contains here = prepared.contains here := by
          rw [contains_eq_isSome_entryAt?, contains_eq_isSome_entryAt?, steps.written,
            entryAt?_set_file steps.isDirectory steps.free, if_neg (steps.temporary_ne reached)]
        rw [reached]
        dsimp only
        rw [same]
        split at staged
        next taken => rw [if_pos taken, ih staged]
        next free => rw [if_neg free, staged]

theorem get?_output (steps : OutputSteps mode validate target text tree prepared directory after) :
    after.get? (directory ++ [target.name]) = some (.file (.text text)) := by
  rw [steps.written]
  exact get?_set steps.isDirectory []

/-- An output that was written can be written again by force and is the same. -/
theorem writeOutput_again
    (steps : OutputSteps mode validate target text tree prepared directory after) :
    writeOutput .force validate target text after = (.ok (), after) := by
  obtain ⟨staging, staged⟩ := steps.staged
  have same : after.set (directory ++ [target.name]) (.file (.text text)) = after := by
    rw [steps.written, set_set]
  refine writeOutput_of_ok rfl ?_ (stagingPlace_again steps staged) steps.checked ?_
  · apply makeDirectories_of_leadsToDirectory
    exact leadsToDirectory_iff.mpr
      ⟨directory, steps.kept.place steps.leads, steps.kept directory steps.isDirectory⟩
  · have file : after.isDirectory (directory ++ [target.name]) = false := by
      rw [isDirectory, get?_output steps]
    rw [writeFile, steps.kept.place steps.reached]
    dsimp only
    rw [file, if_neg Bool.false_ne_true, same]

/-- Without force it is refused. -/
theorem writeOutput_again_unforced
    (steps : OutputSteps mode validate target text tree prepared directory after) (later : String) :
    writeOutput .errorIfExists validate target later after =
      (.error (.outputExists target), after) := by
  rw [writeOutput_eq_outputExists_iff, isForbidden_iff]
  refine ⟨⟨rfl, .file (.text text), ?_⟩, rfl, rfl⟩
  rw [find?, steps.kept.place steps.reached]
  exact congrArg Except.ok (get?_output steps)

end DartModels.Project
