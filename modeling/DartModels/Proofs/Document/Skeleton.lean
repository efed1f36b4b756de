import DartModels.Document.Node

/-
Skeletons of documents, and documents whose arrays hold elements of one skeleton.
-/

namespace DartModels.Document

/-- A skeleton keeps the kinds and the keys of a document; of an array it keeps the first element
that is not null, and whether any element is. -/
inductive Skeleton where
  | null
  | boolean
  | integer
  | real
  | text
  | array (first : Option Skeleton) (hasNull : Bool)
  | object (members : List (String × Skeleton))
  | unknown

namespace Node

mutual

def skeleton : Node → Skeleton
  | .null => .null
  | .boolean _ => .boolean
  | .integer _ => .integer
  | .real _ => .real
  | .text _ => .text
  | .array items => .array (firstSkeleton items) (items.any isNull)
  | .object members => .object (memberSkeletons members)
  | .unknown => .unknown

/-- The skeleton of the first element that is not null. -/
def firstSkeleton : List Node → Option Skeleton
  | [] => none
  | .null :: rest => firstSkeleton rest
  | item :: _ => some item.skeleton

def memberSkeletons : List (String × Node) → List (String × Skeleton)
  | [] => []
  | (key, value) :: rest => (key, value.skeleton) :: memberSkeletons rest

end

theorem firstSkeleton_cons_of_present {item : Node} {rest : List Node}
    (present : item.isNull = false) : firstSkeleton (item :: rest) = some item.skeleton := by
  cases item with
  | null => cases present
  | _ => rfl

/-- The nodes of a document, the document itself included. -/
inductive Inside (inner : Node) : Node → Prop
  | self : Inside inner inner
  | element {items : List Node} {item : Node} (member : item ∈ items)
      (deeper : Inside inner item) : Inside inner (.array items)
  | member {members : List (String × Node)} {key : String} {value : Node}
      (member : (key, value) ∈ members) (deeper : Inside inner value) :
      Inside inner (.object members)

/-- All elements that are not null have the same skeleton. -/
def Uniform (items : List Node) : Prop :=
  ∀ first ∈ items, ∀ second ∈ items, first.isNull = false → second.isNull = false →
    first.skeleton = second.skeleton

/-- Each array of the document is uniform, at any depth. -/
def Homogeneous (root : Node) : Prop :=
  ∀ items : List Node, Inside (.array items) root → Uniform items

/-- Any element that is not null has the skeleton of the first one. -/
theorem firstSkeleton_of_mem {items : List Node} {item : Node} (uniform : Uniform items)
    (member : item ∈ items) (present : item.isNull = false) :
    firstSkeleton items = some item.skeleton := by
  induction items with
  | nil => cases member
  | cons first rest ih =>
      cases empty : first.isNull with
      | false =>
          rw [firstSkeleton_cons_of_present empty]
          exact congrArg some (uniform first List.mem_cons_self item member empty present)
      | true =>
          have later : item ∈ rest := by
            rcases List.mem_cons.mp member with rfl | later
            · rw [present] at empty
              cases empty
            · exact later
          have others : Uniform rest := fun one inside another among =>
            uniform one (List.mem_cons_of_mem _ inside) another (List.mem_cons_of_mem _ among)
          obtain rfl := eq_null_of_isNull empty
          exact ih others later

theorem homogeneous_array {items : List Node} :
    (array items).Homogeneous ↔ Uniform items ∧ ∀ item ∈ items, item.Homogeneous := by
  constructor
  · intro homogeneous
    exact ⟨homogeneous items .self,
      fun item member inner deeper => homogeneous inner (.element member deeper)⟩
  · rintro ⟨uniform, each⟩ inner inside
    cases inside with
    | self => exact uniform
    | element member deeper => exact each _ member inner deeper

theorem homogeneous_object {members : List (String × Node)} :
    (object members).Homogeneous ↔ ∀ member ∈ members, member.2.Homogeneous := by
  constructor
  · intro homogeneous member inside inner deeper
    exact homogeneous inner (.member inside deeper)
  · intro each inner inside
    cases inside with
    | member member deeper => exact each _ member inner deeper

end Node

end DartModels.Document
