import DartModels.Document.Classify
import DartModels.Proofs.Checked

/-
Containers that a walk over a document meets, and the limit that classification sets to them.
-/

namespace DartModels.Document

/-- A container of a document, by the text of its path and the number of containers around it. -/
structure Container where
  path : String
  depth : Nat
  deriving DecidableEq, Repr

namespace Node

mutual

/-- The containers on a walk over a value at a path, in order; of an array the walk goes only into
the first element that is not null. -/
def walked (path : String) (depth : Nat) : Node → List Container
  | .array items => ⟨path, depth⟩ :: elementWalked path (depth + 1) 0 items
  | .object members => ⟨path, depth⟩ :: memberWalked path (depth + 1) members
  | _ => []

def elementWalked (path : String) (depth index : Nat) : List Node → List Container
  | [] => []
  | .null :: rest => elementWalked path depth (index + 1) rest
  | item :: _ => item.walked (path ++ "[" ++ toString index ++ "]") depth

def memberWalked (path : String) (depth : Nat) : List (String × Node) → List Container
  | [] => []
  | (key, value) :: rest =>
      value.walked (path ++ "." ++ key) depth ++ memberWalked path depth rest

end

theorem elementWalked_cons_of_present {path : String} {depth index : Nat} {item : Node}
    {rest : List Node} (present : item.isNull = false) :
    elementWalked path depth index (item :: rest) =
      item.walked (path ++ "[" ++ toString index ++ "]") depth := by
  cases item with
  | null => cases present
  | _ => rfl

/-- The walk goes into no more than one of the elements. -/
theorem elementWalked_cons_subset {path : String} {depth index : Nat} {item : Node}
    {rest : List Node} :
    elementWalked path depth index (item :: rest) ⊆
      item.walked (path ++ "[" ++ toString index ++ "]") depth ++
        elementWalked path depth (index + 1) rest := by
  cases empty : item.isNull with
  | true =>
      obtain rfl := eq_null_of_isNull empty
      exact List.subset_append_right _ _
  | false =>
      rw [elementWalked_cons_of_present empty]
      exact List.subset_append_left _ _

end Node

/-- No container of these is beyond the limit. -/
def DepthLimit.Admits (limit : DepthLimit) (containers : List Container) : Prop :=
  ∀ container ∈ containers, limit.isExceededBy container.depth = false

namespace DepthLimit.Admits

variable {limit : DepthLimit} {first second : List Container}

theorem nil : limit.Admits [] := List.forall_mem_nil _

theorem cons {container : Container} (own : limit.isExceededBy container.depth = false)
    (rest : limit.Admits first) : limit.Admits (container :: first) :=
  List.forall_mem_cons.mpr ⟨own, rest⟩

theorem append (left : limit.Admits first) (right : limit.Admits second) :
    limit.Admits (first ++ second) :=
  List.forall_mem_append.mpr ⟨left, right⟩

theorem of_subset (inside : first ⊆ second) (admitted : limit.Admits second) :
    limit.Admits first :=
  fun container member => admitted container (inside member)

theorem find?_eq_none (admitted : limit.Admits first) :
    first.find? (fun container => limit.isExceededBy container.depth) = none :=
  List.find?_eq_none.mpr fun container member => by simp [admitted container member]

theorem elements {path : String} {depth index : Nat} {item : Node} {rest : List Node}
    (own : limit.Admits (item.walked (path ++ "[" ++ toString index ++ "]") depth))
    (others : limit.Admits (Node.elementWalked path depth (index + 1) rest)) :
    limit.Admits (Node.elementWalked path depth index (item :: rest)) :=
  .of_subset Node.elementWalked_cons_subset (own.append others)

end DepthLimit.Admits

theorem admits_ofReal (limit : DepthLimit) (path : String) (depth : Nat)
    (value : Number.Binary64) : limit.Admits ((Node.ofReal value).walked path depth) := by
  unfold Node.ofReal
  cases value.toInt? <;> exact .nil

mutual

/-- A document that is classified has no container beyond the limit on its walk. -/
theorem admits_of_classify {limit : DepthLimit} {path : Path} {depth : Nat} {node : Node} :
    (value : Value) → classify limit path depth value = .ok node →
      limit.Admits (node.walked path.text depth)
  | .null, ok | .boolean _, ok | .integer _, ok | .text _, ok => by
      cases ok
      exact .nil
  | .real value, ok => by
      cases ok
      exact admits_ofReal limit path.text depth value
  | .foreign _ _, ok => by cases ok
  | .list items, ok | .tuple items, ok => by
      obtain ⟨_, checked, ok⟩ := bind_eq_ok.mp ok
      obtain ⟨nodes, classified, ok⟩ := bind_eq_ok.mp ok
      cases ok
      exact .cons (DepthLimit.within_of_check checked) (admits_of_classifyItems items classified)
  | .mapping entries, ok => by
      obtain ⟨_, checked, ok⟩ := bind_eq_ok.mp ok
      obtain ⟨members, classified, ok⟩ := bind_eq_ok.mp ok
      cases ok
      exact .cons (DepthLimit.within_of_check checked)
        (admits_of_classifyEntries entries classified)

theorem admits_of_classifyItems {limit : DepthLimit} {path : Path} {depth position : Nat}
    {nodes : List Node} :
    (items : List Value) → classifyItems limit path depth position items = .ok nodes →
      limit.Admits (Node.elementWalked path.text depth position nodes)
  | [], ok => by
      cases ok
      exact .nil
  | item :: rest, ok => by
      obtain ⟨node, own, ok⟩ := bind_eq_ok.mp ok
      obtain ⟨others, later, ok⟩ := bind_eq_ok.mp ok
      cases ok
      exact .elements (admits_of_classify item own) (admits_of_classifyItems rest later)

theorem admits_of_classifyEntries {limit : DepthLimit} {path : Path} {depth : Nat}
    {members : List (String × Node)} :
    (entries : List (Value × Value)) → classifyEntries limit path depth entries = .ok members →
      limit.Admits (Node.memberWalked path.text depth members)
  | [], ok => by
      cases ok
      exact .nil
  | (key, value) :: rest, ok => by
      obtain ⟨node, own, ok⟩ := bind_eq_ok.mp ok
      obtain ⟨others, later, ok⟩ := bind_eq_ok.mp ok
      cases ok
      exact .append (admits_of_classify value own) (admits_of_classifyEntries rest later)

end

namespace Node

mutual

/-- The decoded data that a node stands for; of members with one key the last value counts. -/
def decoded : Node → Value
  | .null => .null
  | .boolean value => .boolean value
  | .integer value => .integer value
  | .real value => .real value
  | .text value => .text value
  | .array items => .list (decodedItems items)
  | .object members => Value.ofEntries (decodedMembers members)
  | .unknown => .foreign Node.unknown.kindName none

def decodedItems : List Node → List Value
  | [] => []
  | item :: rest => item.decoded :: decodedItems rest

def decodedMembers : List (String × Node) → List (Value × Value)
  | [] => []
  | (key, value) :: rest => (.text key, value.decoded) :: decodedMembers rest

end

mutual

/-- All kinds of values in the document are known, and no object has a key twice. -/
def isPlain : Node → Bool
  | .unknown => false
  | .array items => arePlain items
  | .object members => decide (members.map Prod.fst).Nodup && membersPlain members
  | _ => true

def arePlain : List Node → Bool
  | [] => true
  | item :: rest => item.isPlain && arePlain rest

def membersPlain : List (String × Node) → Bool
  | [] => true
  | (_, value) :: rest => value.isPlain && membersPlain rest

end

end Node

namespace Value

theorem insertEntry_of_fresh {key value : Value} {known : List (Value × Value)}
    (fresh : ∀ entry ∈ known, entry.1.sameKey key = false) :
    insertEntry key value known = known ++ [(key, value)] := by
  induction known with
  | nil => rfl
  | cons entry rest ih =>
      obtain ⟨own, others⟩ := List.forall_mem_cons.mp fresh
      simp [insertEntry, own, ih others]

/-- Entries whose keys differ are the entries of their mapping. -/
theorem ofEntries_of_pairwise {entries : List (Value × Value)}
    (distinct : entries.Pairwise fun first second => first.1.sameKey second.1 = false) :
    ofEntries entries = .mapping entries := by
  have append (known : List (Value × Value))
      (apart : (known ++ entries).Pairwise fun first second =>
        first.1.sameKey second.1 = false) :
      entries.foldl (fun known entry => insertEntry entry.1 entry.2 known) known =
        known ++ entries := by
    clear distinct
    induction entries generalizing known with
    | nil => simp
    | cons entry rest ih =>
        have fresh : ∀ other ∈ known, other.1.sameKey entry.1 = false :=
          fun other member => (List.pairwise_append.mp apart).2.2 other member entry
            List.mem_cons_self
        rw [List.foldl_cons, insertEntry_of_fresh fresh, ih _ (by simpa using apart)]
        simp
  rw [ofEntries, append [] distinct, List.nil_append]

end Value

theorem Node.decodedMembers_eq_map (members : List (String × Node)) :
    Node.decodedMembers members =
      members.map fun member => (Value.text member.1, member.2.decoded) := by
  induction members with
  | nil => rfl
  | cons member rest ih => rw [Node.decodedMembers, ih, List.map_cons]

theorem Node.decoded_object {members : List (String × Node)}
    (distinct : (members.map Prod.fst).Nodup) :
    (Node.object members).decoded = .mapping (Node.decodedMembers members) := by
  rw [Node.decoded, Value.ofEntries_of_pairwise]
  rw [Node.decodedMembers_eq_map, List.pairwise_map]
  refine (List.pairwise_map.mp distinct).imp fun {first second} apart => ?_
  simpa [Value.sameKey] using apart

/-- A classification answers only if these containers are within the limit, and fails only because
some container is not. -/
def DepthLimit.Guards (limit : DepthLimit) (containers : List Container) {Answer : Type}
    (result : Except Refusal Answer) : Prop :=
  (∃ place, result = .error (.tooDeep place limit)) ∨
    (∃ answer, result = .ok answer) ∧ limit.Admits containers

namespace DepthLimit.Guards

variable {limit : DepthLimit} {first second : List Container} {Answer Next : Type}

theorem ok (answer : Answer) : limit.Guards [] (.ok answer : Except Refusal Answer) :=
  .inr ⟨⟨answer, rfl⟩, .nil⟩

theorem check (limit : DepthLimit) (path : Path) (depth : Nat) :
    limit.Guards [⟨path.text, depth⟩] (limit.check path depth) := by
  unfold DepthLimit.check
  cases exceeded : limit.isExceededBy depth with
  | true => exact .inl ⟨path, rfl⟩
  | false => exact .inr ⟨⟨(), rfl⟩, .cons exceeded .nil⟩

theorem bind {result : Except Refusal Answer} {next : Answer → Except Refusal Next}
    (guarded : limit.Guards first result) (later : ∀ answer, limit.Guards second (next answer)) :
    limit.Guards (first ++ second) (result >>= next) := by
  rcases guarded with ⟨place, rfl⟩ | ⟨⟨answer, rfl⟩, admitted⟩
  · exact .inl ⟨place, rfl⟩
  · rcases later answer with ⟨place, failed⟩ | ⟨answered, others⟩
    · exact .inl ⟨place, failed⟩
    · exact .inr ⟨answered, admitted.append others⟩

theorem map {result : Except Refusal Answer} (guarded : limit.Guards first result)
    (f : Answer → Next) : limit.Guards first (result >>= fun answer => .ok (f answer)) := by
  have answered : ∀ answer, limit.Guards [] (.ok (f answer) : Except Refusal Next) :=
    fun answer => ok (f answer)
  simpa using guarded.bind answered

theorem of_subset {result : Except Refusal Answer} (inside : first ⊆ second)
    (guarded : limit.Guards second result) : limit.Guards first result :=
  guarded.imp_right fun ⟨answered, admitted⟩ => ⟨answered, admitted.of_subset inside⟩

end DepthLimit.Guards

mutual

/-- The decoded data of a plain document is guarded by the containers on the document's walk. -/
theorem guards_classify_decoded (limit : DepthLimit) (path : Path) (depth : Nat) :
    (node : Node) → node.isPlain = true →
      limit.Guards (node.walked path.text depth) (classify limit path depth node.decoded)
  | .null, _ | .boolean _, _ | .integer _, _ | .real _, _ | .text _, _ => .ok _
  | .unknown, plain => by cases plain
  | .array items, plain =>
      .bind (.check limit path depth) fun _ =>
        .map (guards_classifyItems_decoded limit path (depth + 1) 0 items plain) Node.array
  | .object members, plain => by
      obtain ⟨distinct, plain⟩ := Bool.and_eq_true_iff.mp plain
      rw [Node.decoded_object (of_decide_eq_true distinct)]
      exact .bind (.check limit path depth) fun _ =>
        .map (guards_classifyEntries_decoded limit path (depth + 1) members plain) Node.object

theorem guards_classifyItems_decoded (limit : DepthLimit) (path : Path) (depth position : Nat) :
    (items : List Node) → Node.arePlain items = true →
      limit.Guards (Node.elementWalked path.text depth position items)
        (classifyItems limit path depth position (Node.decodedItems items))
  | [], _ => .ok _
  | item :: rest, plain => by
      obtain ⟨own, others⟩ := Bool.and_eq_true_iff.mp plain
      exact .of_subset Node.elementWalked_cons_subset
        (.bind (guards_classify_decoded limit (path.index position) depth item own) fun _ =>
          .map (guards_classifyItems_decoded limit path depth (position + 1) rest others) _)

theorem guards_classifyEntries_decoded (limit : DepthLimit) (path : Path) (depth : Nat) :
    (members : List (String × Node)) → Node.membersPlain members = true →
      limit.Guards (Node.memberWalked path.text depth members)
        (classifyEntries limit path depth (Node.decodedMembers members))
  | [], _ => .ok _
  | (key, value) :: rest, plain => by
      obtain ⟨own, others⟩ := Bool.and_eq_true_iff.mp plain
      exact .bind (guards_classify_decoded limit (path.key key) depth value own) fun _ =>
        .map (guards_classifyEntries_decoded limit path depth rest others) _

end

end DartModels.Document
