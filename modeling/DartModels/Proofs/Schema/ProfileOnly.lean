import DartModels.Proofs.Document.Profile
import DartModels.Proofs.Schema.Walk

/-
An inference reads no more of a document than its profile.
-/

namespace DartModels.Schema

open DartModels.Document
open DartModels.Name
open DartModels.Options

variable {rules : Rules}

/-- Without an element that is not null, the type of the elements stays open. -/
theorem inferElement_of_firstProfile_eq_none {key : String} {path : Path} {depth index : Nat}
    {names : Registry} {items : List Node} (empty : Node.firstProfile index items = none) :
    inferElement rules key path depth index names items = pure (.untyped false, [], names) := by
  induction items generalizing index with
  | nil => rfl
  | cons item rest ih =>
      cases present : item.isNull with
      | true =>
          obtain rfl := Node.eq_null_of_isNull present
          exact ih empty
      | false =>
          rw [Node.firstProfile_cons_of_present present] at empty
          cases empty

/-- The search ends at an element with the first profile, and at its index. -/
theorem exists_of_firstProfile_eq_some (rules : Rules) {start index : Nat} {profile : Profile}
    {items : List Node} (found : Node.firstProfile start items = some (index, profile)) :
    ∃ item : Node, item.profile = profile ∧
      ∀ (key : String) (path : Path) (depth : Nat) (names : Registry),
        inferElement rules key path depth start names items = (do
          let found ← inferType rules .element key (path.index index) depth names item
          Traced.note (.elementResolved path index)
          return found) := by
  induction items generalizing start with
  | nil => cases found
  | cons item rest ih =>
      cases present : item.isNull with
      | true =>
          obtain rfl := Node.eq_null_of_isNull present
          exact ih found
      | false =>
          rw [Node.firstProfile_cons_of_present present] at found
          cases found
          exact ⟨item, rfl, fun _ _ _ _ => inferElement_cons_of_present present⟩

mutual

/-- Two values of one profile lead to one type, one failure and the same notes. -/
theorem inferType_eq_of_profile (place : Place) (key : String) (path : Path) (depth : Nat)
    (names : Registry) : (first second : Node) → first.profile = second.profile →
    inferType rules place key path depth names first =
      inferType rules place key path depth names second
  | .null, second, same
  | .boolean _, second, same
  | .integer _, second, same
  | .real _, second, same
  | .text _, second, same
  | .unknown, second, same => by
      cases second with
      | array _ | object _ => cases same
      | _ => first | rfl | cases same
  | .array items, second, same => by
      cases second with
      | array others =>
          obtain ⟨first, nulls⟩ := Profile.array.inj same
          have element :=
            inferElement_eq_of_profile key path (depth + 1) names items 0 0 others first
          simp only [inferType, listType, element, nulls]
      | _ => cases same
  | .object members, second, same => by
      cases second with
      | object others =>
          have fields (names : Registry) := inferFields_eq_of_profile [] path (depth + 1)
            Registry.empty names members others (Profile.object.inj same)
          simp only [inferType, fields]
      | _ => cases same

theorem inferElement_eq_of_profile (key : String) (path : Path) (depth : Nat) (names : Registry) :
    (first : List Node) → (start other : Nat) → (second : List Node) →
    Node.firstProfile start first = Node.firstProfile other second →
    inferElement rules key path depth start names first =
      inferElement rules key path depth other names second
  | [], _, _, _, same => by
      rw [inferElement_of_firstProfile_eq_none same.symm]
      rfl
  | item :: rest, start, other, second, same => by
      cases present : item.isNull with
      | true =>
          obtain rfl := Node.eq_null_of_isNull present
          exact inferElement_eq_of_profile key path depth names rest (start + 1) other second same
      | false =>
          rw [Node.firstProfile_cons_of_present present] at same
          obtain ⟨twin, alike, walked⟩ := exists_of_firstProfile_eq_some rules same.symm
          rw [inferElement_cons_of_present present, walked,
            inferType_eq_of_profile _ _ _ _ _ item twin alike.symm]

theorem inferFields_eq_of_profile (overrides : List Override) (path : Path) (depth : Nat)
    (taken names : Registry) : (first second : List (String × Node)) →
    Node.memberProfiles first = Node.memberProfiles second →
    inferFields rules overrides path depth taken names first =
      inferFields rules overrides path depth taken names second
  | [], second, same => by
      cases second with
      | nil => rfl
      | cons member rest => cases same
  | (key, value) :: rest, second, same => by
      cases second with
      | nil => cases same
      | cons member others =>
          obtain ⟨other, twin⟩ := member
          obtain ⟨own, later⟩ := List.cons.inj same
          obtain ⟨rfl, alike⟩ := Prod.mk.inj own
          have found := inferType_eq_of_profile .member key (path.key key) depth names value twin
            alike
          have continued (taken names : Registry) := inferFields_eq_of_profile overrides path depth
            taken names rest others later
          simp only [inferFields, found, continued]

end

/-- Without members, a root fails in the same way as any other root of its profile. -/
theorem inferModels_eq_of_profile (config : Config) (overrides : List Override) (rootName : String)
    {first second : Node} (same : first.profile = second.profile) :
    inferModels config overrides rootName first = inferModels config overrides rootName second := by
  cases first with
  | object members =>
      cases second with
      | object others =>
          have fields (rules : Rules) (names : Registry) :
              inferFields rules overrides .root 0 Registry.empty names members =
                inferFields rules overrides .root 0 Registry.empty names others :=
            inferFields_eq_of_profile _ _ _ _ _ members others (Profile.object.inj same)
          simp only [inferModels, fields]
      | _ => cases same
  | _ =>
      cases second with
      | object _ => cases same
      | _ => first | rfl | cases same

/-- The profile of a document alone determines what is inferred from it, notes and failures
included; what an array holds after its first element that is not null is in it only by its
nulls. -/
theorem infer_determined_by_profile (config : Config) (overrides : List Override)
    (rootName converterImport : String) :
    (∀ first second : Node, first.profile = second.profile →
      infer config overrides rootName converterImport first =
        infer config overrides rootName converterImport second) ∧
    ∀ (before later other : List Node) (item : Node), item.isNull = false →
      later.any Node.isNull = other.any Node.isNull →
      (Node.array (before ++ item :: later)).profile =
        (Node.array (before ++ item :: other)).profile := by
  constructor
  · intro first second same
    unfold infer
    rw [inferModels_eq_of_profile config overrides rootName same]
  · intro before later other item present nulls
    exact Node.profile_array_of_later present nulls

/-- The sample with other scalars, and with later elements of other kinds and keys. -/
def orderTwin : Node :=
  .object
    [("items", .array
        [.null, .object [("id", .integer (-5)), ("tags", .array [.text "", .null, .boolean true])],
          .array [.array [.object [("deep", .null)]]], .null]),
      ("item", .object [("grid", .array [.array [], .integer 3, .null]), ("meta", .null)]),
      ("user-id", .integer 0), ("userId", .text "class"), ("userId", .boolean false)]

theorem infer_orderTwin :
    orderSample.profile = orderTwin.profile ∧
      infer orderConfig orderOverrides "item" "converter.dart" orderSample =
        infer orderConfig orderOverrides "item" "converter.dart" orderTwin ∧
      (infer orderConfig orderOverrides "item" "converter.dart" orderTwin).result =
        .ok orderFile := by
  have same : orderSample.profile = orderTwin.profile := rfl
  have alike := (infer_determined_by_profile orderConfig orderOverrides "item"
    "converter.dart").1 orderSample orderTwin same
  exact ⟨same, alike, alike ▸ infer_orderSample⟩

end DartModels.Schema
