import DartModels.Proofs.Document.Offences
import DartModels.Proofs.Number.IntegerText
import DartModels.Proofs.Schema.DepthBound
import DartModels.Proofs.Schema.UserLiteral

/-
The generation of models answers for every document within its limit, unless a configured text
begins with an integer that is too long to be read.
-/

namespace DartModels.Schema

open DartModels.Document
open DartModels.Name
open DartModels.Number
open DartModels.Options
open DartModels.Text

/-- The configured defaults are texts, and every override can be looked up by its key. -/
structure WellFormed (config : Config) (defaults : Defaults) (overrides : List Override) :
    Prop where
  texts : config.defaults = .texts defaults
  hashable : ∀ override ∈ overrides, override.unhashableKey? = none

/-- Defaults are asked for, and the text for integers begins with more digits than are admitted. -/
def TooLong (config : Config) (defaults : Defaults) (failure : Failure) : Prop :=
  config.useDefaultValues.holds = true ∧
    ∃ run, IsDigits run ∧ LeadsWith defaults.intValue run ∧ maxDigits < run.length ∧
      failure = .tooManyDigits ⟨run.length⟩

/-- What is wrong with the options when the inference fails for another cause than the depth. -/
inductive OptionDefect (config : Config) (overrides : List Override) : Failure → Prop
  | limit (unordered : DepthLimit.ofValue? config.maxDepth = none) :
      OptionDefect config overrides (.refused (.limitNotNumber config.maxDepth.typeName))
  | key {override : Override} {typeName : String} (member : override ∈ overrides)
      (unhashable : override.unhashableKey? = some typeName) :
      OptionDefect config overrides (.unhashableKey typeName)
  | literal {defaults : Defaults} {failure : Failure}
      (configured : config.defaults = .texts defaults)
      (long : TooLong config defaults failure) : OptionDefect config overrides failure
  | defaults (replaced : ∀ defaults, config.defaults ≠ .texts defaults) (error : OptionError) :
      OptionDefect config overrides (.badOptions error)

/-- Well-formed options can only be too long. -/
theorem OptionDefect.tooLong {config : Config} {defaults : Defaults} {overrides : List Override}
    {failure : Failure} {limit : DepthLimit} (defect : OptionDefect config overrides failure)
    (limited : DepthLimit.ofConfigured config.maxDepth = .ok limit)
    (wellFormed : WellFormed config defaults overrides) : TooLong config defaults failure := by
  cases defect with
  | limit unordered =>
      rw [DepthLimit.ofConfigured, unordered] at limited
      cases limited
  | key member unhashable =>
      rw [wellFormed.hashable _ member] at unhashable
      cases unhashable
  | literal configured long =>
      rw [wellFormed.texts] at configured
      cases configured
      exact long
  | defaults replaced => exact absurd wellFormed.texts (replaced defaults)

/-- Configured texts keep a field from being completed only if they are too long. -/
theorem CompletionFails.optionDefect {config : Config} {overrides : List Override}
    {failure : Failure} (fails : CompletionFails config failure) :
    OptionDefect config overrides failure := by
  obtain ⟨override, type, failed⟩ := fails.fieldDefault
  unfold Schema.fieldDefault at failed
  split at failed
  next => cases failed
  next =>
    split at failed
    next asked =>
      unfold configuredDefault at failed
      split at failed
      next _ _ defaults configured =>
        obtain ⟨excess, missing, rfl⟩ := eq_error_of_mapError failed
        obtain ⟨run, digits, leads, long, rfl⟩ :=
          Default.integerLiteral_eq_error (Default.literal?_eq_error missing)
        exact .literal configured ⟨asked, run, digits, leads, long, rfl⟩
      next replaced _ =>
        cases failed
        exact .defaults (by simp [replaced]) _
      next => cases failed
      next missing =>
        cases failed
        exact .defaults (by simp [missing]) _
    next => cases failed

theorem OptionDefect.of_checkDefaults {config : Config} {overrides : List Override}
    {error : OptionError} (failed : config.checkDefaults = .error error) :
    OptionDefect config overrides (.badOptions error) := by
  unfold Config.checkDefaults at failed
  split at failed
  next missing => exact .defaults (by simp [missing]) error
  next => cases failed

theorem OptionDefect.of_checkKeys {config : Config} {overrides : List Override}
    {failure : Failure} (failed : checkKeys overrides = .error failure) :
    OptionDefect config overrides failure := by
  unfold checkKeys at failed
  split at failed
  next typeName found =>
    cases failed
    obtain ⟨override, member, unhashable⟩ := List.exists_of_findSome?_eq_some found
    exact .key member unhashable
  next => cases failed

/-- The inference heeds its limit and fails otherwise only at a defect of the options. -/
theorem heeds_infer_options {config : Config} {limit : DepthLimit}
    (limited : DepthLimit.ofConfigured config.maxDepth = .ok limit) (overrides : List Override)
    (rootName converterImport : String) (members : List (String × Node)) :
    Heeds limit (OptionDefect config overrides) ((Node.object members).walked "$" 0)
      (infer config overrides rootName converterImport (.object members)).result :=
  heeds_infer limited (fun _ => .of_checkDefaults) (fun _ => .of_checkKeys)
    (fun _ fails => fails.optionDefect) rootName converterImport members

/-! Samples -/

section Samples

variable {config : Config} (overrides : List Override) (rootName converterImport : String)

/-- What a sample's root leads to is what its model file is. -/
theorem result_modelFile (sample : Sample) :
    (sample.modelFile config overrides rootName converterImport).result =
      (sample.objectRoot config.maxDepth).result.bind fun root =>
        (infer config overrides rootName converterImport root).result := by
  unfold Sample.modelFile
  simp only [Traced.result_bind, Traced.result_note, Traced.result_pure]
  cases (sample.objectRoot config.maxDepth).result with
  | error failure => rfl
  | ok root =>
      dsimp only [Except.bind]
      cases (infer config overrides rootName converterImport root).result <;> rfl

/-- An object that is given as a node is inferred from as it is. -/
theorem result_modelFile_object (members : List (String × Node)) :
    ((Sample.classified (.object members)).modelFile config overrides rootName
        converterImport).result =
      (infer config overrides rootName converterImport (.object members)).result := by
  rw [result_modelFile]
  rfl

/-- What is refused as it is classified has no model file. -/
theorem result_modelFile_of_refused {limit : DepthLimit} {value : Value} {refusal : Refusal}
    (limited : DepthLimit.ofConfigured config.maxDepth = .ok limit)
    (refused : Node.ofValue limit value = .error refusal) :
    ((Sample.decoded value).modelFile config overrides rootName converterImport).result =
      .error (.refused refusal) := by
  rw [result_modelFile, Sample.objectRoot, Traced.result_bind, root_decoded limited, refused]
  rfl

/-- The model file of a mapping is inferred from an object whose walk is within the limit. -/
theorem result_modelFile_of_classified {limit : DepthLimit} {entries : List (Value × Value)}
    {node : Node} (limited : DepthLimit.ofConfigured config.maxDepth = .ok limit)
    (classified : Node.ofValue limit (.mapping entries) = .ok node) :
    ∃ members, limit.Admits ((Node.object members).walked "$" 0) ∧
      ((Sample.decoded (.mapping entries)).modelFile config overrides rootName
          converterImport).result =
        (infer config overrides rootName converterImport (.object members)).result := by
  have rooted := root_decoded limited (.mapping entries)
  rw [classified] at rooted
  obtain ⟨members, rfl, admitted⟩ := admits_of_root_decoded limited rooted
  refine ⟨members, admitted, ?_⟩
  rw [result_modelFile, Sample.objectRoot, Traced.result_bind, rooted]
  rfl

end Samples

/-- A supported mapping has a model file, or it is refused for its depth, or the options have a
defect; it is only refused if a container lies beyond the limit. -/
theorem modelFile_cases {config : Config} {limit : DepthLimit} {entries : List (Value × Value)}
    (limited : DepthLimit.ofConfigured config.maxDepth = .ok limit)
    (supported : (Value.mapping entries).isSupported = true) (overrides : List Override)
    (rootName converterImport : String) :
    let result := ((Sample.decoded (.mapping entries)).modelFile config overrides rootName
      converterImport).result
    (∃ file, result = .ok file) ∨
      (∃ failure, OptionDefect config overrides failure ∧ result = .error failure) ∨
      (∃ path, result = .error (.refused (.tooDeep path limit))) ∧
        ∃ level ∈ (Value.mapping entries).levels 0, limit.isExceededBy level = true := by
  rcases classify_supported limit .root 0 supported with
    ⟨⟨node, classified⟩, -⟩ | ⟨place, refused, beyond⟩
  · obtain ⟨members, admitted, same⟩ := result_modelFile_of_classified overrides rootName
      converterImport limited classified
    have heeded := heeds_infer_options limited overrides rootName converterImport members
    dsimp only
    rw [same]
    generalize (infer config overrides rootName converterImport (.object members)).result = result
      at heeded
    cases heeded with
    | answered file _ => exact .inl ⟨file, rfl⟩
    | refused first =>
        rw [admitted.find?_eq_none] at first
        cases first
    | failed cause => exact .inr (.inl ⟨_, cause, rfl⟩)
  · exact .inr (.inr ⟨⟨place, result_modelFile_of_refused _ _ _ limited refused⟩, beyond⟩)

/-- A mapping whose containers are all within the limit has a model file, unless a text is too
long. -/
theorem modelFile_or_tooLong {config : Config} {defaults : Defaults} {overrides : List Override}
    {limit : DepthLimit} {entries : List (Value × Value)}
    (limited : DepthLimit.ofConfigured config.maxDepth = .ok limit)
    (wellFormed : WellFormed config defaults overrides)
    (supported : (Value.mapping entries).isSupported = true)
    (within : ∀ level ∈ (Value.mapping entries).levels 0, limit.isExceededBy level = false)
    (rootName converterImport : String) :
    let result := ((Sample.decoded (.mapping entries)).modelFile config overrides rootName
      converterImport).result
    (∃ file, result = .ok file) ∨
      ∃ failure, TooLong config defaults failure ∧ result = .error failure := by
  rcases modelFile_cases limited supported overrides rootName converterImport with
    answered | ⟨failure, defect, failed⟩ | ⟨-, level, member, beyond⟩
  · exact .inl answered
  · exact .inr ⟨failure, defect.tooLong limited wellFormed, failed⟩
  · rw [within level member] at beyond
    cases beyond

/-- All fields of a model file were completed under its options. -/
theorem FileWalk.completed {config : Config} {overrides : List Override}
    {rootName converterImport : String} {root : Node} {file : ModelFile}
    (walk : FileWalk config overrides rootName converterImport root file) :
    ∀ model ∈ file.models, ∀ field ∈ model.fields, field.CompletedBy config overrides := by
  cases walk with
  | root limited within named inside =>
      obtain ⟨own, below⟩ := inside.completed
      refine List.forall_mem_cons.mpr ⟨own, fun model member field inModel => ?_⟩
      exact (below model member field inModel).of_none

end DartModels.Schema
