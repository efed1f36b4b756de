import DartModels.Document.Classify
import DartModels.Proofs.Checked

/-
Offences of decoded data: containers that lie too deep and values of foreign types, in document
order. Classification reports the first of them.
-/

namespace DartModels.Document

/-- A container that lies beyond the limit offends before its contents do. -/
def DepthLimit.offence (limit : DepthLimit) (path : Path) (depth : Nat) : List Refusal :=
  if limit.isExceededBy depth then [.tooDeep path limit] else []

mutual

/-- The offences of a value at a path; `depth` counts the containers around it. -/
def offences (limit : DepthLimit) (path : Path) (depth : Nat) : Value → List Refusal
  | .list items | .tuple items =>
      limit.offence path depth ++ itemOffences limit path (depth + 1) 0 items
  | .mapping entries =>
      limit.offence path depth ++ entryOffences limit path (depth + 1) entries
  | .foreign typeName _ => [.unsupported path typeName]
  | _ => []

def itemOffences (limit : DepthLimit) (path : Path) (depth position : Nat) :
    List Value → List Refusal
  | [] => []
  | item :: rest =>
      offences limit (path.index position) depth item ++
        itemOffences limit path depth (position + 1) rest

def entryOffences (limit : DepthLimit) (path : Path) (depth : Nat) :
    List (Value × Value) → List Refusal
  | [] => []
  | (key, value) :: rest =>
      offences limit (path.key key.display) depth value ++ entryOffences limit path depth rest

end

/-- A classification answers if there is no offence and is refused for the first one otherwise. -/
inductive Reports {Answer : Type} : List Refusal → Except Refusal Answer → Prop
  | answered (answer : Answer) : Reports [] (.ok answer)
  | refused (first : Refusal) (later : List Refusal) : Reports (first :: later) (.error first)

namespace Reports

variable {first second : List Refusal} {Answer Next : Type}

theorem check (limit : DepthLimit) (path : Path) (depth : Nat) :
    Reports (limit.offence path depth) (limit.check path depth) := by
  unfold DepthLimit.offence DepthLimit.check
  cases limit.isExceededBy depth with
  | true => exact .refused _ []
  | false => exact .answered ()

/-- What comes later counts only if there is no offence before it. -/
theorem bind {result : Except Refusal Answer} {next : Answer → Except Refusal Next}
    (reported : Reports first result) (later : ∀ answer, Reports second (next answer)) :
    Reports (first ++ second) (result >>= next) := by
  cases reported with
  | answered answer => exact later answer
  | refused refusal rest => exact .refused refusal (rest ++ second)

theorem map {result : Except Refusal Answer} (reported : Reports first result)
    (f : Answer → Next) : Reports first (result >>= fun answer => .ok (f answer)) := by
  have answered : ∀ answer, Reports [] (.ok (f answer) : Except Refusal Next) :=
    fun answer => .answered (f answer)
  simpa using reported.bind answered

end Reports

mutual

/-- Classification reports the first offence of a value, whatever else is wrong with it. -/
theorem reports_classify (limit : DepthLimit) (path : Path) (depth : Nat) :
    (value : Value) → Reports (offences limit path depth value) (classify limit path depth value)
  | .null | .boolean _ | .integer _ | .real _ | .text _ => .answered _
  | .foreign _ _ => .refused _ []
  | .list items | .tuple items =>
      .bind (.check limit path depth) fun _ =>
        .map (reports_classifyItems limit path (depth + 1) 0 items) Node.array
  | .mapping entries =>
      .bind (.check limit path depth) fun _ =>
        .map (reports_classifyEntries limit path (depth + 1) entries) Node.object

theorem reports_classifyItems (limit : DepthLimit) (path : Path) (depth position : Nat) :
    (items : List Value) → Reports (itemOffences limit path depth position items)
      (classifyItems limit path depth position items)
  | [] => .answered _
  | item :: rest =>
      .bind (reports_classify limit (path.index position) depth item) fun _ =>
        .map (reports_classifyItems limit path depth (position + 1) rest) _

theorem reports_classifyEntries (limit : DepthLimit) (path : Path) (depth : Nat) :
    (entries : List (Value × Value)) → Reports (entryOffences limit path depth entries)
      (classifyEntries limit path depth entries)
  | [] => .answered _
  | (key, value) :: rest =>
      .bind (reports_classify limit (path.key key.display) depth value) fun _ =>
        .map (reports_classifyEntries limit path depth rest) _

end

namespace Value

mutual

/-- The levels of the containers of a value, in document order; `depth` is that of the value. -/
def levels (depth : Nat) : Value → List Nat
  | .list items | .tuple items => depth :: itemLevels (depth + 1) items
  | .mapping entries => depth :: entryLevels (depth + 1) entries
  | _ => []

def itemLevels (depth : Nat) : List Value → List Nat
  | [] => []
  | item :: rest => item.levels depth ++ itemLevels depth rest

def entryLevels (depth : Nat) : List (Value × Value) → List Nat
  | [] => []
  | (_, value) :: rest => value.levels depth ++ entryLevels depth rest

end

mutual

/-- A value is supported if no value of a foreign type is in it. -/
def isSupported : Value → Bool
  | .list items | .tuple items => itemsSupported items
  | .mapping entries => entriesSupported entries
  | .foreign _ _ => false
  | _ => true

def itemsSupported : List Value → Bool
  | [] => true
  | item :: rest => item.isSupported && itemsSupported rest

def entriesSupported : List (Value × Value) → Bool
  | [] => true
  | (_, value) :: rest => value.isSupported && entriesSupported rest

end

end Value

/-- Only these levels can lead to an offence, and each one beyond the limit does. -/
structure DepthLimit.Judges (limit : DepthLimit) (levels : List Nat) (found : List Refusal) :
    Prop where
  tooDeep : ∀ refusal ∈ found, ∃ path, refusal = .tooDeep path limit
  exceeded : found = [] ↔ ∀ level ∈ levels, limit.isExceededBy level = false

namespace DepthLimit.Judges

variable {limit : DepthLimit} {levels others : List Nat} {found later : List Refusal}

theorem nil : limit.Judges [] [] :=
  ⟨List.forall_mem_nil _, by simp⟩

theorem append (first : limit.Judges levels found) (second : limit.Judges others later) :
    limit.Judges (levels ++ others) (found ++ later) where
  tooDeep := List.forall_mem_append.mpr ⟨first.tooDeep, second.tooDeep⟩
  exceeded := by
    rw [List.append_eq_nil_iff, first.exceeded, second.exceeded, List.forall_mem_append]

theorem offence (limit : DepthLimit) (path : Path) (depth : Nat) :
    limit.Judges [depth] (limit.offence path depth) := by
  unfold DepthLimit.offence
  cases exceeded : limit.isExceededBy depth with
  | true => exact ⟨by simp, by simp [exceeded]⟩
  | false => exact ⟨by simp, by simp [exceeded]⟩

/-- A judged classification answers exactly when no level is beyond the limit, and is refused for
its depth otherwise. -/
theorem verdict {Answer : Type} {result : Except Refusal Answer}
    (judged : limit.Judges levels found) (reported : Reports found result) :
    (∃ answer, result = .ok answer) ∧ (∀ level ∈ levels, limit.isExceededBy level = false) ∨
      ∃ path, result = .error (.tooDeep path limit) ∧
        ∃ level ∈ levels, limit.isExceededBy level = true := by
  cases reported with
  | answered answer => exact .inl ⟨⟨answer, rfl⟩, judged.exceeded.mp rfl⟩
  | refused refusal rest =>
      obtain ⟨path, rfl⟩ := judged.tooDeep refusal List.mem_cons_self
      refine .inr ⟨path, rfl, ?_⟩
      cases beyond : levels.any limit.isExceededBy with
      | true => exact List.any_eq_true.mp beyond
      | false =>
          have none := judged.exceeded.mpr fun level member =>
            Bool.eq_false_iff.mpr (List.any_eq_false.mp beyond level member)
          cases none

end DepthLimit.Judges

mutual

/-- The offences of a supported value are its levels beyond the limit. -/
theorem judges_offences (limit : DepthLimit) (path : Path) (depth : Nat) :
    (value : Value) → value.isSupported = true →
      limit.Judges (value.levels depth) (offences limit path depth value)
  | .null, _ | .boolean _, _ | .integer _, _ | .real _, _ | .text _, _ => .nil
  | .foreign _ _, supported => by cases supported
  | .list items, supported | .tuple items, supported =>
      .append (.offence limit path depth)
        (judges_itemOffences limit path (depth + 1) 0 items supported)
  | .mapping entries, supported =>
      .append (.offence limit path depth)
        (judges_entryOffences limit path (depth + 1) entries supported)

theorem judges_itemOffences (limit : DepthLimit) (path : Path) (depth position : Nat) :
    (items : List Value) → Value.itemsSupported items = true →
      limit.Judges (Value.itemLevels depth items) (itemOffences limit path depth position items)
  | [], _ => .nil
  | item :: rest, supported => by
      obtain ⟨own, others⟩ := Bool.and_eq_true_iff.mp supported
      exact .append (judges_offences limit (path.index position) depth item own)
        (judges_itemOffences limit path depth (position + 1) rest others)

theorem judges_entryOffences (limit : DepthLimit) (path : Path) (depth : Nat) :
    (entries : List (Value × Value)) → Value.entriesSupported entries = true →
      limit.Judges (Value.entryLevels depth entries) (entryOffences limit path depth entries)
  | [], _ => .nil
  | (key, value) :: rest, supported => by
      obtain ⟨own, others⟩ := Bool.and_eq_true_iff.mp supported
      exact .append (judges_offences limit (path.key key.display) depth value own)
        (judges_entryOffences limit path depth rest others)

end

/-- A supported value is classified exactly when none of its containers is too deep. -/
theorem classify_supported (limit : DepthLimit) (path : Path) (depth : Nat) {value : Value}
    (supported : value.isSupported = true) :
    (∃ node, classify limit path depth value = .ok node) ∧
        (∀ level ∈ value.levels depth, limit.isExceededBy level = false) ∨
      ∃ place, classify limit path depth value = .error (.tooDeep place limit) ∧
        ∃ level ∈ value.levels depth, limit.isExceededBy level = true :=
  (judges_offences limit path depth value supported).verdict
    (reports_classify limit path depth value)

end DartModels.Document
