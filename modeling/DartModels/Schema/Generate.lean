import DartModels.Document.Classify
import DartModels.Schema.Infer

/-
Model files of samples, which are decoded data or classified documents.
-/

namespace DartModels.Schema

open DartModels.Document
open DartModels.Options

/-- A classified document is taken as it is only if it is an object. -/
inductive Sample where
  | decoded (value : Value)
  | classified (node : Node)

/-- What is classified: a node that is no object counts as a foreign value. -/
def Sample.value : Sample → Value
  | .decoded value => value
  | .classified node => .foreign node.kindName none

/-- Classifies a value and notes where it is too deep. -/
def classifyTraced (limit : DepthLimit) (value : Value) : Inference Node :=
  match Node.ofValue limit value with
  | .ok node => pure node
  | .error (.tooDeep path limit) =>
      Traced.failWith (.documentTooDeep path) (.refused (.tooDeep path limit))
  | .error refusal => Traced.ofExcept (.error (.refused refusal))

/-- A sample's root, classified within the configured limit. -/
def Sample.root (maxDepth : Value) (sample : Sample) : Inference Node :=
  match sample with
  | .classified (.object members) => pure (.object members)
  | sample => do
      let limit ← Traced.ofExcept
        ((DepthLimit.ofConfigured maxDepth).mapError Failure.refused)
      classifyTraced limit sample.value

/-- The root of a sample must be an object. -/
def Sample.objectRoot (maxDepth : Value) (sample : Sample) : Inference Node := do
  let root ← sample.root maxDepth
  match root with
  | .object members => return .object members
  | _ => Traced.ofExcept (.error (.rootNotObject sample.value.typeName))

/-- The model file of a sample. -/
def Sample.modelFile (config : Config) (overrides : List Override)
    (rootName converterImport : String) (sample : Sample) : Inference ModelFile := do
  let root ← sample.objectRoot config.maxDepth
  let file ← infer config overrides rootName converterImport root
  Traced.note (.inferred file.models.length rootName)
  return file

end DartModels.Schema
