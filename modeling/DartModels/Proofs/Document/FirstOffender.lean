import DartModels.Proofs.Document.Bound
import DartModels.Proofs.Document.Offences

/-
Classification as a walk in document order: it answers with a node of the same shape, or it is
refused for the first value that offends.
-/

namespace DartModels.Document

open DartModels.Number

/-- A value in a document, by the text of its path and the number of containers around it. -/
structure Visit where
  path : String
  depth : Nat
  value : Value

namespace Value

def isContainer : Value → Bool
  | .list _ | .tuple _ | .mapping _ => true
  | _ => false

def isForeign : Value → Bool
  | .foreign _ _ => true
  | _ => false

mutual

/-- The values in a value at a path in document order, a container before its contents. -/
def visits (path : String) (depth : Nat) : Value → List Visit
  | .list items => ⟨path, depth, .list items⟩ :: itemVisits path (depth + 1) 0 items
  | .tuple items => ⟨path, depth, .tuple items⟩ :: itemVisits path (depth + 1) 0 items
  | .mapping entries => ⟨path, depth, .mapping entries⟩ :: entryVisits path (depth + 1) entries
  | value => [⟨path, depth, value⟩]

def itemVisits (path : String) (depth position : Nat) : List Value → List Visit
  | [] => []
  | item :: rest =>
      item.visits (path ++ "[" ++ toString position ++ "]") depth ++
        itemVisits path depth (position + 1) rest

def entryVisits (path : String) (depth : Nat) : List (Value × Value) → List Visit
  | [] => []
  | (key, value) :: rest =>
      value.visits (path ++ "." ++ key.display) depth ++ entryVisits path depth rest

end

end Value

namespace Visit

/-- A container offends where it is nested deeper than the bound, a foreign value everywhere. -/
def Offends (bound : Extent) (visit : Visit) : Prop :=
  visit.value.isContainer = true ∧ bound < visit.depth ∨ visit.value.isForeign = true

/-- An offender with none before it. -/
def IsFirstOffender (bound : Extent) (visits : List Visit) (visit : Visit) : Prop :=
  visit.Offends bound ∧
    ∃ before after, visits = before ++ visit :: after ∧ ∀ earlier ∈ before, ¬ earlier.Offends bound

theorem IsFirstOffender.unique {bound : Extent} {visits : List Visit} {visit other : Visit}
    (first : IsFirstOffender bound visits visit) (second : IsFirstOffender bound visits other) :
    visit = other := by
  obtain ⟨offends, before, after, rfl, passed⟩ := first
  obtain ⟨otherOffends, otherBefore, otherAfter, same, otherPassed⟩ := second
  -- The longer one of the two parts before them would hold the offender of the other.
  rcases List.append_eq_append_iff.mp same with ⟨between, rfl, split⟩ | ⟨between, rfl, split⟩
  · cases between with
    | nil => exact (List.cons.inj split).1
    | cons head _ =>
        obtain ⟨rfl, -⟩ := List.cons.inj split
        exact absurd offends (otherPassed visit (by simp))
  · cases between with
    | nil => exact (List.cons.inj split).1.symm
    | cons head _ =>
        obtain ⟨rfl, -⟩ := List.cons.inj split
        exact absurd otherOffends (passed other (by simp))

/-- A refusal that names the path of a value, and its limit for a container or the type of a
foreign value. -/
inductive Blamed (limit : DepthLimit) (visit : Visit) : Refusal → Prop
  | tooDeep {path : Path} (place : path.text = visit.path)
      (container : visit.value.isContainer = true) : Blamed limit visit (.tooDeep path limit)
  | unsupported {path : Path} {typeName : String} {key? : Option String}
      (place : path.text = visit.path) (foreign : visit.value = .foreign typeName key?) :
      Blamed limit visit (.unsupported path typeName)

end Visit

/-- The refusals found on a walk: one for each offender, in order. -/
inductive Found (limit : DepthLimit) (bound : Extent) : List Visit → List Refusal → Prop
  | nothing : Found limit bound [] []
  | passed {visit : Visit} {visits : List Visit} {found : List Refusal}
      (harmless : ¬ visit.Offends bound) (later : Found limit bound visits found) :
      Found limit bound (visit :: visits) found
  | offended {visit : Visit} {visits : List Visit} {refusal : Refusal} {found : List Refusal}
      (offends : visit.Offends bound) (blamed : visit.Blamed limit refusal)
      (later : Found limit bound visits found) :
      Found limit bound (visit :: visits) (refusal :: found)

namespace Found

variable {limit : DepthLimit} {bound : Extent} {visits others : List Visit}
  {found later : List Refusal}

theorem append (first : Found limit bound visits found) (second : Found limit bound others later) :
    Found limit bound (visits ++ others) (found ++ later) := by
  induction first with
  | nothing => exact second
  | passed harmless _ ih => exact .passed harmless ih
  | offended offends blamed _ ih => exact .offended offends blamed ih

/-- A value that is neither a container nor foreign passes. -/
theorem leaf {path : String} {depth : Nat} {value : Value} (noContainer : value.isContainer = false)
    (supported : value.isForeign = false) : Found limit bound [⟨path, depth, value⟩] [] := by
  refine .passed ?_ .nothing
  rintro (⟨container, -⟩ | foreign)
  · exact absurd container (by simp [noContainer])
  · exact absurd foreign (by simp [supported])

theorem container (known : limit.extent? = some bound) (path : Path) (depth : Nat) {value : Value}
    (isContainer : value.isContainer = true) (supported : value.isForeign = false) :
    Found limit bound [⟨path.text, depth, value⟩] (limit.offence path depth) := by
  unfold DepthLimit.offence
  split
  next beyond =>
    have deep := (DepthLimit.isExceededBy_iff known depth).mp beyond
    exact .offended (.inl ⟨isContainer, deep⟩) (.tooDeep rfl isContainer) .nothing
  next within =>
    refine .passed ?_ .nothing
    rintro (⟨-, deep⟩ | foreign)
    · exact within ((DepthLimit.isExceededBy_iff known depth).mpr deep)
    · exact absurd foreign (by simp [supported])

end Found

mutual

/-- The offences of a value are those of the values in it, in document order. -/
theorem found_offences {limit : DepthLimit} {bound : Extent} (known : limit.extent? = some bound)
    (path : Path) (depth : Nat) : (value : Value) →
      Found limit bound (value.visits path.text depth) (offences limit path depth value)
  | .null | .boolean _ | .integer _ | .real _ | .text _ => .leaf rfl rfl
  | .foreign _ _ => .offended (.inr rfl) (.unsupported rfl rfl) .nothing
  | .list items | .tuple items =>
      .append (.container known path depth rfl rfl)
        (found_itemOffences known path (depth + 1) 0 items)
  | .mapping entries =>
      .append (.container known path depth rfl rfl)
        (found_entryOffences known path (depth + 1) entries)

theorem found_itemOffences {limit : DepthLimit} {bound : Extent}
    (known : limit.extent? = some bound) (path : Path) (depth position : Nat) :
    (items : List Value) → Found limit bound (Value.itemVisits path.text depth position items)
      (itemOffences limit path depth position items)
  | [] => .nothing
  | item :: rest =>
      .append (found_offences known (path.index position) depth item)
        (found_itemOffences known path depth (position + 1) rest)

theorem found_entryOffences {limit : DepthLimit} {bound : Extent}
    (known : limit.extent? = some bound) (path : Path) (depth : Nat) :
    (entries : List (Value × Value)) → Found limit bound (Value.entryVisits path.text depth entries)
      (entryOffences limit path depth entries)
  | [] => .nothing
  | (key, value) :: rest =>
      .append (found_offences known (path.key key.display) depth value)
        (found_entryOffences known path depth rest)

end

/-- A node has the shape of a value: an array its items, an object its entries in order under the
texts of their keys, and a scalar the same value; of reals only those become integers that are. -/
inductive SameShape : Value → Node → Prop
  | null : SameShape .null .null
  | boolean (value : Bool) : SameShape (.boolean value) (.boolean value)
  | integer (value : Int) : SameShape (.integer value) (.integer value)
  | whole {value : Binary64} {number : Int} (equal : value.extent? = some (number : ℚ)) :
      SameShape (.real value) (.integer number)
  | real {value : Binary64} (apart : ∀ number : Int, value.extent? ≠ some (number : ℚ)) :
      SameShape (.real value) (.real value)
  | text (value : String) : SameShape (.text value) (.text value)
  | list {items : List Value} {nodes : List Node} (each : List.Forall₂ SameShape items nodes) :
      SameShape (.list items) (.array nodes)
  | tuple {items : List Value} {nodes : List Node} (each : List.Forall₂ SameShape items nodes) :
      SameShape (.tuple items) (.array nodes)
  | mapping {entries : List (Value × Value)} {members : List (String × Node)}
      (keys : members.map Prod.fst = entries.map fun entry => entry.1.display)
      (each : List.Forall₂ SameShape (entries.map Prod.snd) (members.map Prod.snd)) :
      SameShape (.mapping entries) (.object members)

theorem sameShape_ofReal (value : Binary64) : SameShape (.real value) (Node.ofReal value) := by
  unfold Node.ofReal
  cases whole : value.toInt? with
  | some number => exact .whole (Binary64.toInt?_eq_some_iff.mp whole)
  | none =>
      refine .real fun number equal => ?_
      rw [Binary64.toInt?_eq_some_iff.mpr equal] at whole
      cases whole

mutual

theorem sameShape_of_classify {limit : DepthLimit} {path : Path} {depth : Nat} {node : Node} :
    (value : Value) → classify limit path depth value = .ok node → SameShape value node
  | .null, ok => by
      cases ok
      exact .null
  | .boolean value, ok => by
      cases ok
      exact .boolean value
  | .integer value, ok => by
      cases ok
      exact .integer value
  | .real value, ok => by
      cases ok
      exact sameShape_ofReal value
  | .text value, ok => by
      cases ok
      exact .text value
  | .foreign _ _, ok => by cases ok
  | .list items, ok => by
      obtain ⟨-, -, ok⟩ := bind_eq_ok.mp ok
      obtain ⟨nodes, classified, ok⟩ := bind_eq_ok.mp ok
      cases ok
      exact .list (sameShape_of_classifyItems items classified)
  | .tuple items, ok => by
      obtain ⟨-, -, ok⟩ := bind_eq_ok.mp ok
      obtain ⟨nodes, classified, ok⟩ := bind_eq_ok.mp ok
      cases ok
      exact .tuple (sameShape_of_classifyItems items classified)
  | .mapping entries, ok => by
      obtain ⟨-, -, ok⟩ := bind_eq_ok.mp ok
      obtain ⟨members, classified, ok⟩ := bind_eq_ok.mp ok
      cases ok
      obtain ⟨keys, each⟩ := sameShape_of_classifyEntries entries classified
      exact .mapping keys each

theorem sameShape_of_classifyItems {limit : DepthLimit} {path : Path} {depth position : Nat}
    {nodes : List Node} :
    (items : List Value) → classifyItems limit path depth position items = .ok nodes →
      List.Forall₂ SameShape items nodes
  | [], ok => by
      cases ok
      exact .nil
  | item :: rest, ok => by
      obtain ⟨node, own, ok⟩ := bind_eq_ok.mp ok
      obtain ⟨others, later, ok⟩ := bind_eq_ok.mp ok
      cases ok
      exact .cons (sameShape_of_classify item own) (sameShape_of_classifyItems rest later)

theorem sameShape_of_classifyEntries {limit : DepthLimit} {path : Path} {depth : Nat}
    {members : List (String × Node)} :
    (entries : List (Value × Value)) → classifyEntries limit path depth entries = .ok members →
      members.map Prod.fst = entries.map (fun entry => entry.1.display) ∧
        List.Forall₂ SameShape (entries.map Prod.snd) (members.map Prod.snd)
  | [], ok => by
      cases ok
      exact ⟨rfl, .nil⟩
  | (key, value) :: rest, ok => by
      obtain ⟨node, own, ok⟩ := bind_eq_ok.mp ok
      obtain ⟨others, later, ok⟩ := bind_eq_ok.mp ok
      cases ok
      obtain ⟨keys, each⟩ := sameShape_of_classifyEntries rest later
      exact ⟨congrArg (key.display :: ·) keys, .cons (sameShape_of_classify value own) each⟩

end

end DartModels.Document
