import DartModels.Document.Node

/-
Profiles of documents: what is left of them without their scalars and without the later elements
of their arrays.
-/

namespace DartModels.Document

/-- A profile keeps the kinds and the keys of a document; of an array it keeps the first element
that is not null with the number of nulls before it, and whether any element is null. -/
inductive Profile where
  | null
  | boolean
  | integer
  | real
  | text
  | array (first : Option (Nat × Profile)) (hasNull : Bool)
  | object (members : List (String × Profile))
  | unknown

namespace Node

mutual

def profile : Node → Profile
  | .null => .null
  | .boolean _ => .boolean
  | .integer _ => .integer
  | .real _ => .real
  | .text _ => .text
  | .array items => .array (firstProfile 0 items) (items.any isNull)
  | .object members => .object (memberProfiles members)
  | .unknown => .unknown

/-- The first element that is not null, with its index if the list begins at the given one. -/
def firstProfile (index : Nat) : List Node → Option (Nat × Profile)
  | [] => none
  | .null :: rest => firstProfile (index + 1) rest
  | item :: _ => some (index, item.profile)

def memberProfiles : List (String × Node) → List (String × Profile)
  | [] => []
  | (key, value) :: rest => (key, value.profile) :: memberProfiles rest

end

theorem firstProfile_cons_of_present {index : Nat} {item : Node} {rest : List Node}
    (present : item.isNull = false) :
    firstProfile index (item :: rest) = some (index, item.profile) := by
  cases item with
  | null => cases present
  | _ => rfl

/-- What comes after an element that is not null counts only by the nulls in it. -/
theorem profile_array_of_later {before later other : List Node} {item : Node}
    (present : item.isNull = false) (nulls : later.any isNull = other.any isNull) :
    (array (before ++ item :: later)).profile = (array (before ++ item :: other)).profile := by
  have first (index : Nat) :
      firstProfile index (before ++ item :: later) =
        firstProfile index (before ++ item :: other) := by
    induction before generalizing index with
    | nil =>
        rw [List.nil_append, List.nil_append, firstProfile_cons_of_present present,
          firstProfile_cons_of_present present]
    | cons head rest ih =>
        rw [List.cons_append, List.cons_append]
        cases empty : head.isNull with
        | true =>
            obtain rfl := eq_null_of_isNull empty
            exact ih (index + 1)
        | false =>
            rw [firstProfile_cons_of_present empty, firstProfile_cons_of_present empty]
  simp only [profile, first, List.any_append, List.any_cons, nulls]

end Node

end DartModels.Document
