import DartModels.Proofs.Schema.Totality

/-
The highest limit on nesting holds under every configured limit that is a number, and under none
that is not.
-/

namespace DartModels.Schema

open DartModels.Document
open DartModels.Name
open DartModels.Number
open DartModels.Options

/-- A depth beyond the highest limit is beyond every capped one. -/
theorem isExceededBy_capped {limit : DepthLimit} (ordered : limit ≠ .real .nan) {depth : Nat}
    (deep : 200 < depth) : limit.capped.isExceededBy depth = true := by
  obtain ⟨extent, known⟩ := DepthLimit.extent?_of_ne_nan ordered
  have beyond : (200 : Extent) < depth := by exact_mod_cast deep
  rw [DepthLimit.isExceededBy_iff (DepthLimit.extent?_capped known)]
  exact (min_le_right extent 200).trans_lt beyond

section Beyond

variable {config : Config} {limit : DepthLimit}

/-- A supported document with a container beyond the limit is refused for its depth, whatever the
other options are. -/
theorem modelFile_of_level_beyond {value : Value} {level : Nat}
    (limited : DepthLimit.ofConfigured config.maxDepth = .ok limit)
    (supported : value.isSupported = true) (member : level ∈ value.levels 0)
    (beyond : limit.isExceededBy level = true) (overrides : List Override)
    (rootName converterImport : String) :
    ∃ path, ((Sample.decoded value).modelFile config overrides rootName converterImport).result =
      .error (.refused (.tooDeep path limit)) := by
  rcases classify_supported limit .root 0 supported with ⟨-, within⟩ | ⟨path, refused, -⟩
  · rw [within level member] at beyond
    cases beyond
  · exact ⟨path, result_modelFile_of_refused overrides rootName converterImport limited refused⟩

/-- An object that is given as a node and has a container beyond the limit on its walk is refused
for its depth, unless a defect of the options is met before. -/
theorem modelFile_of_container_beyond {members : List (String × Node)} {container : Container}
    (limited : DepthLimit.ofConfigured config.maxDepth = .ok limit)
    (member : container ∈ (Node.object members).walked "$" 0)
    (beyond : limit.isExceededBy container.depth = true) (overrides : List Override)
    (rootName converterImport : String) :
    let result := ((Sample.classified (.object members)).modelFile config overrides rootName
      converterImport).result
    (∃ path, result = .error (.refused (.tooDeep path limit))) ∨
      ∃ failure, OptionDefect config overrides failure ∧ result = .error failure := by
  have heeded := heeds_infer_options limited overrides rootName converterImport members
  dsimp only
  rw [result_modelFile_object]
  generalize (infer config overrides rootName converterImport (.object members)).result = result
    at heeded
  cases heeded with
  | answered _ admitted =>
      rw [admitted container member] at beyond
      cases beyond
  | @refused path _ _ => exact .inl ⟨path, rfl⟩
  | failed defect => exact .inr ⟨_, defect, rfl⟩

end Beyond

/-- A document with a container below the highest limit is refused for its depth under every
configured limit that is a number, whatever the other options are. An object that is given as a
node and has such a container on its walk has no model file either: it is refused for its depth,
unless a defect of the other options is met before. -/
theorem modelFile_of_beyond_cap {maxDepth : Value} {given : DepthLimit} {config : Config}
    (number : DepthLimit.ofValue? maxDepth = some given) (ordered : given ≠ .real .nan)
    (configured : config.maxDepth = maxDepth) (overrides : List Override)
    (rootName converterImport : String) :
    (∀ value : Value, value.isSupported = true → (∃ level ∈ value.levels 0, 200 < level) →
      ∃ path, ((Sample.decoded value).modelFile config overrides rootName converterImport).result =
        .error (.refused (.tooDeep path given.capped))) ∧
    ∀ members : List (String × Node),
      (∃ container ∈ (Node.object members).walked "$" 0, 200 < container.depth) →
      let result := ((Sample.classified (.object members)).modelFile config overrides rootName
        converterImport).result
      (∃ path, result = .error (.refused (.tooDeep path given.capped))) ∨
        ∃ failure, OptionDefect config overrides failure ∧ result = .error failure := by
  have limited : DepthLimit.ofConfigured config.maxDepth = .ok given.capped := by
    rw [configured, ofConfigured_of_number number]
  constructor
  · rintro value supported ⟨level, member, deep⟩
    exact modelFile_of_level_beyond limited supported member (isExceededBy_capped ordered deep)
      overrides rootName converterImport
  · rintro members ⟨container, member, deep⟩
    exact modelFile_of_container_beyond limited member (isExceededBy_capped ordered deep)
      overrides rootName converterImport

/-- A list in lists. -/
def nestedList : Nat → Value
  | 0 => .list []
  | n + 1 => .list [nestedList n]

theorem isSupported_nestedList (n : Nat) : (nestedList n).isSupported = true := by
  induction n with
  | zero => rfl
  | succ n ih => simp [nestedList, Value.isSupported, Value.itemsSupported, ih]

theorem mem_levels_nestedList (n depth : Nat) : depth + n ∈ (nestedList n).levels depth := by
  induction n generalizing depth with
  | zero => exact List.mem_singleton.mpr rfl
  | succ n ih =>
      have inner := ih (depth + 1)
      rw [nestedList, Value.levels, Value.itemLevels]
      refine List.mem_cons_of_mem depth (List.mem_append_left _ ?_)
      rwa [Nat.add_right_comm, Nat.add_assoc] at inner

/-- The same list as a node. -/
def nestedArray : Nat → Node
  | 0 => .array []
  | n + 1 => .array [nestedArray n]

theorem walked_nestedArray (n : Nat) (path : String) (depth : Nat) :
    ∃ container ∈ (nestedArray n).walked path depth, container.depth = depth + n := by
  induction n generalizing path depth with
  | zero => exact ⟨⟨path, depth⟩, List.mem_singleton.mpr rfl, rfl⟩
  | succ n ih =>
      obtain ⟨container, member, deep⟩ := ih (path ++ "[" ++ toString 0 ++ "]") (depth + 1)
      have present : (nestedArray n).isNull = false := by cases n <;> rfl
      refine ⟨container, ?_, by rw [deep, Nat.add_right_comm, Nat.add_assoc]⟩
      rw [nestedArray, Node.walked, Node.elementWalked_cons_of_present present]
      exact List.mem_cons_of_mem _ member

def boundlessConfig : Config := { Config.standard with maxDepth := .real (.infinite false) }

theorem modelFile_of_beyond_cap_boundless :
    DepthLimit.ofValue? (.real (.infinite false)) = some (.real (.infinite false)) ∧
      DepthLimit.real (.infinite false) ≠ .real .nan ∧
      (∃ path, ((Sample.decoded (nestedList 201)).modelFile boundlessConfig [] "User" "").result =
        .error (.refused (.tooDeep path (.count 200)))) ∧
      ∃ path, ((Sample.classified (.object [("a", nestedArray 200)])).modelFile boundlessConfig []
        "User" "").result = .error (.refused (.tooDeep path (.count 200))) := by
  have number : DepthLimit.ofValue? (.real (.infinite false)) =
      some (.real (.infinite false)) := rfl
  have ordered : DepthLimit.real (.infinite false) ≠ .real .nan := by decide
  have deep : ∃ level ∈ (nestedList 201).levels 0, 200 < level :=
    ⟨0 + 201, mem_levels_nestedList 201 0, by decide⟩
  have onWalk : ∃ container ∈ (Node.object [("a", nestedArray 200)]).walked "$" 0,
      200 < container.depth := by
    obtain ⟨container, member, same⟩ := walked_nestedArray 200 ("$" ++ "." ++ "a") 1
    refine ⟨container, ?_, by rw [same]; decide⟩
    exact List.mem_cons_of_mem _ (List.mem_append_left _ member)
  have wellFormed : WellFormed boundlessConfig Defaults.empty [] :=
    ⟨rfl, List.forall_mem_nil _⟩
  have configured : boundlessConfig.maxDepth = .real (.infinite false) := rfl
  obtain ⟨document, node⟩ := modelFile_of_beyond_cap number ordered configured [] "User" ""
  refine ⟨number, ordered, document _ (isSupported_nestedList 201) deep, ?_⟩
  rcases node _ onWalk with refused | ⟨failure, defect, -⟩
  · exact refused
  · obtain ⟨asked, -⟩ := defect.tooLong (ofConfigured_of_number number) wellFormed
    cases asked

/-! A limit that is no number -/

/-- No depth is beyond it. -/
theorem isExceededBy_nan (depth : Nat) : (DepthLimit.real .nan).isExceededBy depth = false := rfl

def unorderedConfig : Config := { Config.standard with maxDepth := .real .nan }

/-- Under the limit that is no number, a document of any depth has a model file. -/
theorem modelFile_of_unordered {entries : List (Value × Value)}
    (supported : (Value.mapping entries).isSupported = true) (rootName converterImport : String) :
    ∃ file, ((Sample.decoded (.mapping entries)).modelFile unorderedConfig [] rootName
      converterImport).result = .ok file := by
  have wellFormed : WellFormed unorderedConfig Defaults.empty [] := ⟨rfl, List.forall_mem_nil _⟩
  have limited : DepthLimit.ofConfigured unorderedConfig.maxDepth = .ok (.real .nan) := rfl
  rcases modelFile_or_tooLong limited wellFormed supported (fun level _ => isExceededBy_nan level)
    rootName converterImport with answered | ⟨failure, ⟨asked, -⟩, -⟩
  · exact answered
  · cases asked

/-- The cap can be configured away: a config may hold the limit that is no number, and then a
document far below the highest limit is generated from. -/
theorem unordered_limit_lifts_cap :
    Config.ofValue (.mapping [(.text "max_depth", .real .nan)]) = .ok unorderedConfig ∧
      DepthLimit.ofValue? (.real .nan) = some (.real .nan) ∧
      (∃ level ∈ (Value.mapping [(.text "a", nestedList 200)]).levels 0, 200 < level) ∧
      ∃ file, ((Sample.decoded (.mapping [(.text "a", nestedList 200)])).modelFile unorderedConfig
        [] "User" "json_value_converter.dart").result = .ok file := by
  refine ⟨rfl, rfl, ⟨1 + 200, ?_, by decide⟩, ?_⟩
  · rw [Value.levels, Value.entryLevels]
    exact List.mem_cons_of_mem 0 (List.mem_append_left _ (mem_levels_nestedList 200 1))
  · refine modelFile_of_unordered ?_ _ _
    rw [Value.isSupported, Value.entriesSupported, isSupported_nestedList]
    rfl

end DartModels.Schema
