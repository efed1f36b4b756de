import DartModels.Project.Flutter
import DartModels.Proofs.Project.Growth

/-
The root of a project lies above its outputs, and its converter module is made at most once.
-/

namespace DartModels.Project

open DartModels.Dart
open DartModels.Project.Tree

variable {tree after : Tree} {root start : Location}

theorem mem_selfAndAbove {location above : Location} :
    above ∈ location.selfAndAbove ↔ above <+: location := by
  induction location generalizing above with
  | nil => simp [Location.selfAndAbove]
  | cons name rest ih =>
      cases above with
      | nil => simp [Location.selfAndAbove]
      | cons first later =>
          simp only [Location.selfAndAbove, List.mem_append, List.mem_map, List.cons.injEq,
            List.mem_singleton, reduceCtorEq, or_false, ih, List.cons_prefix_cons]
          constructor
          · rintro ⟨_, below, rfl, rfl⟩
            exact ⟨rfl, below⟩
          · rintro ⟨rfl, below⟩
            exact ⟨later, below, rfl, rfl⟩

theorem findM?_mem {found : Location} {locations : List Location}
    (searched : locations.findM? (holdsPubspec tree) = .ok (some found)) : found ∈ locations := by
  induction locations with
  | nil => cases searched
  | cons first rest ih =>
      obtain ⟨holds, held, searched⟩ := bind_eq_ok.mp searched
      cases holds with
      | true =>
          cases searched
          exact List.mem_cons_self
      | false => exact List.mem_cons_of_mem first (ih searched)

/-- The root of a project lies at or above the start of the search. -/
theorem prefix_of_projectRoot? (found : projectRoot? tree start = .ok (some root)) :
    root <+: start := by
  obtain ⟨directory, begun, searched⟩ := bind_eq_ok.mp found
  have above := mem_selfAndAbove.mp (findM?_mem searched)
  obtain ⟨isFile, -, same⟩ := bind_eq_ok.mp begun
  cases same
  split at above
  · exact above.trans start.dropLast_prefix
  · exact above

theorem converterLocation_ne_nil (root : Location) : converterLocation root ≠ [] := by
  simp [converterLocation, converterParts]

theorem settled_converterLocation (settled : ".." ∉ root) : ".." ∉ converterLocation root := by
  rw [converterLocation, List.mem_append, not_or]
  exact ⟨settled, by decide⟩

/-- The converter module is there already, or it is made where no file was as the only change;
otherwise no file changes. -/
theorem ensureConverter_cases (tree : Tree) (settled : ".." ∉ root) :
    (∃ error after, ensureConverter tree root = (.error error, after) ∧
        after.fileAt? = tree.fileAt?) ∨
      ensureConverter tree root = (.ok false, tree) ∨
      ∃ after, ensureConverter tree root = (.ok true, after) ∧
        tree.fileAt? (converterLocation root) = none ∧
        ∀ other, after.fileAt? other =
          if other = converterLocation root then some (.text ConverterModule.content)
          else tree.fileAt? other := by
  unfold ensureConverter
  dsimp only
  cases there : tree.find? (converterLocation root) with
  | error error => exact .inl ⟨_, _, rfl, rfl⟩
  | ok found =>
      cases found with
      | some child => exact .inr (.inl rfl)
      | none =>
          have same := fileAt?_makeDirectories tree (converterLocation root).parent
          generalize tree.makeDirectories (converterLocation root).parent = result at same ⊢
          obtain ⟨made, prepared⟩ := result
          dsimp only at same
          cases made with
          | error error => exact .inl ⟨_, _, rfl, same⟩
          | ok _ =>
              dsimp only
              cases written :
                  prepared.writeFile (converterLocation root) (.text ConverterModule.content) with
              | error error => exact .inl ⟨_, _, rfl, same⟩
              | ok after =>
                  have free := settled_converterLocation settled
                  obtain ⟨here, reached, -, -⟩ := writeFile_eq_ok written
                  refine .inr (.inr ⟨after, rfl, ?_, fun other => ?_⟩)
                  · exact fileAt?_of_find? free (place_eq_ok reached).1 there
                  · have changed :=
                      fileAt?_writeFile free (converterLocation_ne_nil root) written other
                    rw [changed, same]

/-- A converter module that is not made changes no file. -/
theorem fileAt?_of_unprepared {error : FileError} (settled : ".." ∉ root)
    (failed : ensureConverter tree root = (.error error, after)) :
    after.fileAt? = tree.fileAt? := by
  obtain ⟨_, _, same, unchanged⟩ | same | ⟨_, same, -⟩ := ensureConverter_cases tree settled
  · rw [same] at failed
    cases failed
    exact unchanged
  · rw [same] at failed
    cases failed
  · rw [same] at failed
    cases failed

end DartModels.Project
