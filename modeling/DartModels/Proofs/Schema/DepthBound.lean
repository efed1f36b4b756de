import DartModels.Proofs.Document.Bound
import DartModels.Proofs.Document.Nesting
import DartModels.Proofs.Number.Leading
import DartModels.Proofs.Schema.Walk

/-
Inference and classification set the same limit to the nesting of a document.
-/

namespace DartModels.Schema

open DartModels.Document
open DartModels.Name
open DartModels.Number
open DartModels.Options
open DartModels.Text

/-- What becomes of an inference that meets these containers: it answers if they are within the
limit, is refused at the first one that is not, or fails for another cause. -/
inductive Heeds (limit : DepthLimit) (other : Failure → Prop) (met : List Container)
    {Answer : Type} : Except Failure Answer → Prop
  | answered (answer : Answer) (admitted : limit.Admits met) : Heeds limit other met (.ok answer)
  | refused {path : Path} {depth : Nat}
      (first : met.find? (fun container => limit.isExceededBy container.depth) =
        some ⟨path.text, depth⟩) :
      Heeds limit other met (.error (.refused (.tooDeep path limit)))
  | failed {failure : Failure} (cause : other failure) : Heeds limit other met (.error failure)

namespace Heeds

variable {limit : DepthLimit} {other : Failure → Prop} {before later : List Container}
  {Answer Next : Type}

/-- Containers within the limit do not count. -/
theorem after {result : Except Failure Answer} (admitted : limit.Admits before)
    (heeded : Heeds limit other later result) : Heeds limit other (before ++ later) result := by
  cases heeded with
  | answered answer rest => exact .answered answer (admitted.append rest)
  | failed cause => exact .failed cause
  | refused first => exact .refused (by rw [List.find?_append, admitted.find?_eq_none, first]; rfl)

theorem bind {result : Except Failure Answer} {next : Answer → Except Failure Next}
    (first : Heeds limit other before result)
    (second : ∀ answer, Heeds limit other later (next answer)) :
    Heeds limit other (before ++ later) (result.bind next) := by
  cases first with
  | answered answer admitted => exact (second answer).after admitted
  | refused first => exact .refused (by rw [List.find?_append, first]; rfl)
  | failed cause => exact .failed cause

theorem map {result : Except Failure Answer} (first : Heeds limit other before result)
    (f : Answer → Next) : Heeds limit other before (result.bind fun answer => .ok (f answer)) := by
  have mapped : ∀ answer, Heeds limit other [] (.ok (f answer) : Except Failure Next) :=
    fun answer => answered (f answer) .nil
  simpa using first.bind mapped

/-- Of a part that meets no container only its failures count. -/
theorem of_error {result : Except Failure Answer}
    (cause : ∀ failure, result = .error failure → other failure) :
    Heeds limit other [] result := by
  cases result with
  | ok answer => exact .answered answer .nil
  | error failure => exact .failed (cause failure rfl)

theorem checkDepth (rules : Rules) (path : Path) (depth : Nat) :
    Heeds rules.limit other [⟨path.text, depth⟩] (rules.checkDepth path depth).result := by
  unfold Rules.checkDepth DepthLimit.check
  cases exceeded : rules.limit.isExceededBy depth with
  | true => exact .refused (List.find?_cons_of_pos exceeded)
  | false => exact .answered () (.cons exceeded .nil)

theorem openModel (rules : Rules) (place : Place) (origin : String) (path : Path) (depth : Nat)
    (names : Registry) :
    Heeds rules.limit other [⟨path.text, depth⟩]
      (openModel rules place origin path depth names).result := by
  unfold Schema.openModel
  rw [Traced.result_bind]
  exact (checkDepth rules path depth).map fun _ => names.unique (classBase place origin)

section Verdict

variable {limit bound : DepthLimit} {other : Failure → Prop} {met : List Container} {path : Path}
  {Answer : Type} {result : Except Failure Answer}

end Verdict

end Heeds

/-- Why the fields of a walk cannot be completed. -/
def CompletionFails (config : Config) (failure : Failure) : Prop :=
  ∃ override name key inferred, completeField config override name key inferred = .error failure

variable {rules : Rules} {other : Failure → Prop}

mutual

/-- The type of a value is inferred by a walk over the containers in it. -/
theorem heeds_inferType (cause : ∀ failure, CompletionFails rules.config failure → other failure)
    (place : Place) (key : String) (path : Path) (depth : Nat) (names : Registry) :
    (node : Node) → Heeds rules.limit other (node.walked path.text (depth + 1))
      (inferType rules place key path depth names node).result
  | .null | .boolean _ | .integer _ | .real _ | .text _ | .unknown => .answered _ .nil
  | .array items => by
      rw [inferType, Traced.result_bind]
      refine (Heeds.checkDepth rules path (depth + 1)).bind fun _ => ?_
      rw [Traced.result_bind]
      exact (heeds_inferElement cause key path (depth + 1) 0 names items).map _
  | .object members => by
      rw [inferType, Traced.result_bind]
      refine (Heeds.openModel rules place (place.origin key) path (depth + 1) names).bind ?_
      rintro ⟨name, opened⟩
      rw [Traced.result_bind]
      exact (heeds_inferFields cause [] path (depth + 1) Registry.empty opened members).map _

theorem heeds_inferElement
    (cause : ∀ failure, CompletionFails rules.config failure → other failure)
    (key : String) (path : Path) (depth index : Nat) (names : Registry) :
    (items : List Node) → Heeds rules.limit other
      (Node.elementWalked path.text (depth + 1) index items)
      (inferElement rules key path depth index names items).result
  | [] => .answered _ .nil
  | item :: rest => by
      cases present : item.isNull with
      | true =>
          obtain rfl := Node.eq_null_of_isNull present
          exact heeds_inferElement cause key path depth (index + 1) names rest
      | false =>
          rw [Node.elementWalked_cons_of_present present, inferElement_cons_of_present present,
            Traced.result_bind]
          exact (heeds_inferType cause .element key (path.index index) depth names item).map _

theorem heeds_inferFields
    (cause : ∀ failure, CompletionFails rules.config failure → other failure)
    (overrides : List Override) (path : Path) (depth : Nat) (taken names : Registry) :
    (members : List (String × Node)) → Heeds rules.limit other
      (Node.memberWalked path.text (depth + 1) members)
      (inferFields rules overrides path depth taken names members).result
  | [] => .answered _ .nil
  | (key, value) :: rest => by
      rw [inferFields, Traced.result_bind]
      refine (heeds_inferType cause .member key (path.key key) depth names value).bind ?_
      rintro ⟨inferred, models, middle⟩
      rw [Traced.result_bind]
      have completed : Heeds rules.limit other [] (completeField rules.config
          (Override.find? key overrides)
          (taken.unique (fieldBase (Override.find? key overrides) key)).1 key inferred) :=
        .of_error fun failure failed => cause failure ⟨_, _, _, _, failed⟩
      refine completed.bind fun field => ?_
      rw [Traced.result_bind]
      exact (heeds_inferFields cause overrides path depth _ middle rest).map _

end

/-- The walk over a document begins at its root, which is no deeper than anything. -/
theorem heeds_infer {config : Config} {overrides : List Override} {limit : DepthLimit}
    (limited : DepthLimit.ofConfigured config.maxDepth = .ok limit)
    (defaults : ∀ error, config.checkDefaults = .error error → other (.badOptions error))
    (keys : ∀ failure, checkKeys overrides = .error failure → other failure)
    (cause : ∀ failure, CompletionFails config failure → other failure)
    (rootName converterImport : String) (members : List (String × Node)) :
    Heeds limit other ((Node.object members).walked "$" 0)
      (infer config overrides rootName converterImport (.object members)).result := by
  have checked : Heeds limit other [] (config.checkDefaults.mapError Failure.badOptions) := by
    refine .of_error fun failure failed => ?_
    obtain ⟨error, found, rfl⟩ := eq_error_of_mapError failed
    exact defaults error found
  unfold infer inferModels
  rw [Traced.result_bind]
  refine .map ?_ _
  rw [Traced.result_bind]
  refine checked.bind fun _ => ?_
  rw [Traced.result_bind]
  refine (Heeds.of_error keys).bind fun _ => ?_
  simp only [Traced.result_bind, Traced.result_ofExcept, limited]
  refine (Heeds.openModel ⟨config, limit⟩ .root rootName .root 0 Registry.empty).bind ?_
  rintro ⟨name, opened⟩
  exact (heeds_inferFields cause overrides .root 0 Registry.empty opened members).map _

namespace Default

end Default

/-- A field that cannot be completed lacks its default. -/
theorem CompletionFails.fieldDefault {config : Config} {failure : Failure}
    (fails : CompletionFails config failure) :
    ∃ override type, fieldDefault config override type = .error failure := by
  obtain ⟨override, name, key, inferred, failed⟩ := fails
  refine ⟨override, if wantsNullable config override then inferred.asNullable else inferred, ?_⟩
  unfold completeField at failed
  cases default : Schema.fieldDefault config override
      (if wantsNullable config override then inferred.asNullable else inferred) with
  | error cause =>
      simp only [default, bind, Except.bind, Except.error.injEq] at failed
      rw [failed]
  | ok literal => simp [default, bind, Except.bind, pure, Except.pure] at failed

/-- Decoded data is classified within the configured limit. -/
theorem root_decoded {maxDepth : Value} {limit : DepthLimit}
    (limited : DepthLimit.ofConfigured maxDepth = .ok limit) (value : Value) :
    ((Sample.decoded value).root maxDepth).result =
      (Node.ofValue limit value).mapError .refused := by
  unfold Sample.root
  simp only [limited, Traced.result_bind, Traced.result_ofExcept, Except.mapError, Except.bind,
    classifyTraced, Sample.value]
  cases Node.ofValue limit value with
  | ok node => rfl
  | error refusal => cases refusal <;> rfl

/-- The root of a decoded mapping is an object whose walk stays within the limit. -/
theorem admits_of_root_decoded {maxDepth : Value} {limit : DepthLimit}
    (limited : DepthLimit.ofConfigured maxDepth = .ok limit) {entries : List (Value × Value)}
    {root : Node} (parsed : ((Sample.decoded (.mapping entries)).root maxDepth).result = .ok root) :
    ∃ members, root = .object members ∧ limit.Admits (root.walked "$" 0) := by
  rw [root_decoded limited] at parsed
  cases classified : Node.ofValue limit (.mapping entries) with
  | error refusal =>
      rw [classified] at parsed
      cases parsed
  | ok node =>
      rw [classified] at parsed
      cases parsed
      have admitted : limit.Admits (root.walked Path.root.text 0) := admits_of_classify _ classified
      obtain ⟨_, -, built⟩ := bind_eq_ok.mp classified
      obtain ⟨members, -, built⟩ := bind_eq_ok.mp built
      cases built
      exact ⟨members, rfl, admitted⟩

end DartModels.Schema
