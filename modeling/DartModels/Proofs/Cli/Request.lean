import DartModels.Cli.Run
import DartModels.Proofs.Checked
import DartModels.Proofs.Project.FileSystem

/-
What the arguments of the command say about its inputs.
-/

namespace DartModels.Cli

open DartModels.Name
open DartModels.Project

/-! Flags -/

/-- A setting that one flag makes, which has a single long spelling and no short one. -/
structure Switch where
  isOn : Settings → Bool
  flag : Flag
  word : String
  ofValue : ∀ settings option value,
    isOn (settings.setValue option value) = isOn settings
  ofOther : ∀ settings other, isOn (settings.setFlag other) = true →
    isOn settings = true ∨ other = flag
  long : ∀ spelled, longOption? spelled = some (.flag flag) → spelled = word
  short : ∀ letter, shortOption? letter ≠ some (.flag flag)

namespace Switch

def force : Switch where
  isOn := Settings.force
  flag := .force
  word := "--force"
  ofValue settings option value := by cases option <;> rfl
  ofOther settings other on := by
    cases other with
    | force => exact .inr rfl
    | _ => exact .inl on
  long spelled found := by
    unfold longOption? at found
    split at found <;> simp_all
  short letter found := by
    unfold shortOption? at found
    split at found <;> simp_all

def buildRunner : Switch where
  isOn := Settings.buildRunner
  flag := .buildRunner true
  word := "--build-runner"
  ofValue settings option value := by cases option <;> rfl
  ofOther settings other on := by
    cases other with
    | buildRunner asked =>
        cases asked with
        | true => exact .inr rfl
        | false => cases on
    | _ => exact .inl on
  long spelled found := by
    unfold longOption? at found
    split at found <;> simp_all
  short letter found := by
    unfold shortOption? at found
    split at found <;> simp_all

variable (switch : Switch)

end Switch

/-! Locations -/

theorem dots_notMem_step {location : Location} {name : String} (settled : ".." ∉ location) :
    ".." ∉ location.step name := by
  unfold Location.step
  split
  · exact fun member => settled (location.dropLast_subset member)
  next other =>
    rw [List.mem_append, not_or]
    exact ⟨settled, fun member => other (List.mem_singleton.mp member).symm⟩

/-- A settled location leads back up nowhere. -/
theorem dots_notMem_settled (location : Location) : ".." ∉ location.settled := by
  suffices ∀ base : Location, ".." ∉ base → ".." ∉ location.foldl Location.step base from
    this [] List.not_mem_nil
  induction location with
  | nil => exact fun _ settled => settled
  | cons name rest ih => exact fun base settled => ih _ (dots_notMem_step settled)

theorem foldl_step_subset {way base names : Location} (own : base ⊆ names)
    (others : way ⊆ names) : way.foldl Location.step base ⊆ names := by
  induction way generalizing base with
  | nil => exact own
  | cons name rest ih =>
      obtain ⟨first, others⟩ := List.cons_subset.mp others
      refine ih ?_ others
      unfold Location.step
      split
      · exact List.Subset.trans (List.dropLast_subset base) own
      · exact List.append_subset.mpr ⟨own, List.cons_subset.mpr ⟨first, List.nil_subset _⟩⟩

/-- Settling a location brings no names into it. -/
theorem settled_subset (location : Location) : location.settled ⊆ location :=
  foldl_step_subset (List.nil_subset _) (List.Subset.refl _)

theorem hasZero_settled {location : Location} (zeroFree : location.hasZero = false) :
    location.settled.hasZero = false := by
  rw [Location.hasZero, List.any_eq_false] at zeroFree ⊢
  exact fun name member => zeroFree name (settled_subset location member)

/-- A path that names a location has no zero characters and leads to an accepted place. -/
theorem namedLocation_eq_ok {workingDirectory location : Location}
    {isAccepted : Location → Bool} {path : String}
    (named : namedLocation workingDirectory isAccepted path = .ok location) :
    (Location.follow workingDirectory path).hasZero = false ∧
      location = Location.resolve workingDirectory path ∧ isAccepted location = true := by
  obtain ⟨found, checked, accepted⟩ := bind_eq_ok.mp named
  have settled := eq_ok_of_mapError checked
  unfold Location.settle at settled
  split at settled
  · cases settled
  next zeroFree =>
    cases settled
    split at accepted
    next accepts =>
      cases accepted
      exact ⟨Bool.eq_false_iff.mpr zeroFree, rfl, accepts⟩
    · cases accepted

theorem eq_resolve_of_namedLocation {workingDirectory location : Location}
    {isAccepted : Location → Bool} {path : String}
    (named : namedLocation workingDirectory isAccepted path = .ok location) :
    location = Location.resolve workingDirectory path :=
  (namedLocation_eq_ok named).2.1

theorem settled_of_namedLocation {workingDirectory location : Location}
    {isAccepted : Location → Bool} {path : String}
    (named : namedLocation workingDirectory isAccepted path = .ok location) :
    ".." ∉ location := by
  rw [eq_resolve_of_namedLocation named]
  exact dots_notMem_settled _

section Inputs

variable {workingDirectory : Location} {tree : Tree} {request : Request} {inputs : Inputs}

/-- The parts of complete inputs. -/
theorem inputs_eq_ok_iff :
    request.inputs workingDirectory tree = .ok inputs ↔
      request.settings.files workingDirectory tree = .ok (inputs.config, inputs.overrides) ∧
        request.document.mapM (namedLocation workingDirectory tree.isFile) =
          .ok (some inputs.document) ∧
        request.outputDirectory.mapM
            (namedLocation workingDirectory fun there => !tree.isFile there) =
          .ok (some inputs.outputDirectory) ∧
        request.surplus.isEmpty = true ∧ inputs.settings = request.settings := by
  unfold Request.inputs
  constructor
  · intro ok
    obtain ⟨⟨config, overrides⟩, files, ok⟩ := bind_eq_ok.mp ok
    obtain ⟨document, documented, ok⟩ := bind_eq_ok.mp ok
    obtain ⟨outputDirectory, directed, ok⟩ := bind_eq_ok.mp ok
    split at ok
    next document outputDirectory =>
      split at ok
      · cases ok
      next single =>
        cases ok
        exact ⟨files, documented, directed, by simpa using single, rfl⟩
    next =>
      split at ok
      · cases ok
      · cases ok
  · obtain ⟨settings, document, outputDirectory, config, overrides⟩ := inputs
    rintro ⟨files, documented, directed, single, rfl⟩
    refine bind_eq_ok.mpr ⟨_, files, bind_eq_ok.mpr ⟨_, documented, bind_eq_ok.mpr
      ⟨_, directed, ?_⟩⟩⟩
    simp only [single]
    rfl

/-- Complete inputs keep the settings of their request, and their output directory is settled. -/
theorem inputs_eq_ok (ok : request.inputs workingDirectory tree = .ok inputs) :
    inputs.settings = request.settings ∧ ".." ∉ inputs.outputDirectory := by
  obtain ⟨-, -, directed, -, settings⟩ := inputs_eq_ok_iff.mp ok
  obtain ⟨path, -, named⟩ := mapM_eq_ok_some directed
  exact ⟨settings, settled_of_namedLocation named⟩

/-- The output directory of complete inputs is no file, and its names have no zero characters. -/
theorem outputDirectory_of_inputs (ok : request.inputs workingDirectory tree = .ok inputs) :
    inputs.outputDirectory.hasZero = false ∧ tree.isFile inputs.outputDirectory = false := by
  obtain ⟨-, -, directed, -⟩ := inputs_eq_ok_iff.mp ok
  obtain ⟨path, -, named⟩ := mapM_eq_ok_some directed
  obtain ⟨zeroFree, reached, accepted⟩ := namedLocation_eq_ok named
  refine ⟨?_, Bool.not_eq_true' _ |>.mp accepted⟩
  rw [reached, Location.resolve]
  exact hasZero_settled zeroFree

/-- Complete inputs lie where the paths of their request lead to. -/
theorem inputs_resolved (ok : request.inputs workingDirectory tree = .ok inputs) :
    ∃ document directory, request.document = some document ∧
      inputs.document = Location.resolve workingDirectory document ∧
      request.outputDirectory = some directory ∧
      inputs.outputDirectory = Location.resolve workingDirectory directory := by
  obtain ⟨-, documented, directed, -⟩ := inputs_eq_ok_iff.mp ok
  obtain ⟨file, given, found⟩ := mapM_eq_ok_some documented
  obtain ⟨directory, asked, named⟩ := mapM_eq_ok_some directed
  exact ⟨file, directory, given, eq_resolve_of_namedLocation found, asked,
    eq_resolve_of_namedLocation named⟩

end Inputs

end DartModels.Cli
