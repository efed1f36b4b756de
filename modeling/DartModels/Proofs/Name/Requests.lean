import Mathlib.Data.Nat.Find
import DartModels.Proofs.Name.Numbering

/-
Requests to a registry one after another: the counts that it remembers change none of the names.
-/

namespace DartModels.Name.Registry

/-- The names for bases that are requested one after another, and the registry after them. -/
def serve (registry : Registry) : List String → List String × Registry
  | [] => ([], registry)
  | base :: later =>
      let (name, next) := registry.unique base
      let (names, last) := next.serve later
      (name :: names, last)

/-! The search without a bound -/

/-- Counting on from `last`, the first number with a free name is `number`. -/
inductive CountsTo (registry : Registry) (base : String) : (last number : Nat) → Prop
  | free {last : Nat} (unused : numbered base (last + 1) ∉ registry.issued) :
      CountsTo registry base last (last + 1)
  | taken {last number : Nat} (used : numbered base (last + 1) ∈ registry.issued)
      (later : CountsTo registry base (last + 1) number) : CountsTo registry base last number

/-- Every request counts on from the count of its base until it meets a free name, however long
that takes. -/
inductive Serves : Registry → List String → List String → Registry → Prop
  | none {registry : Registry} : Serves registry [] [] registry
  | request {registry last : Registry} {base : String} {number : Nat} {later names : List String}
      (found : CountsTo registry base (registry.count base) number)
      (others : Serves ⟨setCount base number registry.counts,
        numbered base number :: registry.issued⟩ later names last) :
      Serves registry (base :: later) (numbered base number :: names) last

theorem lt_nextFree (registry : Registry) (base : String) (tries last : Nat) :
    last < registry.nextFree base tries last := by
  induction tries generalizing last with
  | zero => exact Nat.lt_succ_self last
  | succ tries ih =>
      rw [nextFree]
      split
      · exact Nat.lt_of_succ_lt (ih (last + 1))
      · exact Nat.lt_succ_self last

/-- The number of a name that is handed out is the successor of one not below the count. -/
theorem exists_nextNumber_eq (registry : Registry) (base : String) :
    ∃ steps, registry.nextNumber base = registry.count base + steps + 1 :=
  Nat.exists_eq_add_of_lt
    (registry.lt_nextFree base registry.issued.length (registry.count base))

/-- The search passes over names that were handed out until it meets the free one. -/
theorem countsTo_of_free {registry : Registry} {base : String} (steps last : Nat)
    (used : ∀ number, last < number → number < last + steps + 1 →
      numbered base number ∈ registry.issued)
    (unused : numbered base (last + steps + 1) ∉ registry.issued) :
    CountsTo registry base last (last + steps + 1) := by
  induction steps generalizing last with
  | zero => exact .free unused
  | succ steps ih =>
      have regroup : last + 1 + steps + 1 = last + (steps + 1) + 1 := by omega
      have later := ih (last + 1)
        (fun number above below => used number (by omega) (by omega))
        (by rwa [regroup])
      rw [regroup] at later
      exact .taken (used (last + 1) (by omega) (by omega)) later

/-- The search without a bound ends where the bounded one does. -/
theorem countsTo_nextNumber (registry : Registry) (base : String) :
    CountsTo registry base (registry.count base) (registry.nextNumber base) := by
  obtain ⟨steps, reached⟩ := registry.exists_nextNumber_eq base
  have unused := registry.nextNumber_free base
  rw [reached] at unused ⊢
  refine countsTo_of_free steps _ ?_ unused
  intro number lower upper
  refine registry.issued_of_lt_nextFree base registry.issued.length (registry.count base) number
    lower ?_
  rwa [← reached] at upper

/-- The search without a bound has one end. -/
theorem CountsTo.eq {registry : Registry} {base : String} {last first second : Nat}
    (one : CountsTo registry base last first) (other : CountsTo registry base last second) :
    first = second := by
  induction one with
  | free unused =>
      cases other with
      | free _ => rfl
      | taken used _ => exact absurd used unused
  | taken used _ ih =>
      cases other with
      | free unused => exact absurd used unused
      | taken _ later => exact ih later

/-- Requests are served by searches without a bound exactly as they are by the bounded ones. -/
theorem serves_iff {registry last : Registry} {bases names : List String} :
    Serves registry bases names last ↔ registry.serve bases = (names, last) := by
  constructor
  · intro served
    induction served with
    | none => rfl
    | @request registry last base number later names found others ih =>
        obtain rfl := found.eq (registry.countsTo_nextNumber base)
        rw [serve]
        dsimp only [unique]
        rw [ih]
  · intro served
    induction bases generalizing registry names with
    | nil =>
        cases served
        exact .none
    | cons base later ih =>
        cases served
        exact .request (registry.countsTo_nextNumber base) (ih rfl)

/-! What the counts stand for -/

theorem lookup_setCount (base other : String) (number : Nat) (counts : List (String × Nat)) :
    (setCount base number counts).lookup other =
      if other = base then some number else counts.lookup other := by
  induction counts with
  | nil =>
      by_cases same : other = base
      · simp [setCount, same]
      · simp [setCount, List.lookup_cons, same, beq_eq_false_iff_ne.mpr same]
  | cons entry rest ih =>
      obtain ⟨known, old⟩ := entry
      by_cases own : known = base
      · subst own
        by_cases same : other = known
        · simp [setCount, same]
        · simp [setCount, List.lookup_cons, same, beq_eq_false_iff_ne.mpr same]
      · by_cases same : other = known
        · subst same
          simp [setCount, own]
        · simp [setCount, List.lookup_cons, own, beq_eq_false_iff_ne.mpr same, ih]

/-- A request changes the count of its own base only. -/
theorem count_unique (registry : Registry) (base other : String) :
    (registry.unique base).2.count other =
      if other = base then registry.nextNumber base else registry.count other := by
  rw [unique, count, lookup_setCount]
  split <;> rfl

/-- Every name of a base was handed out up to its count. -/
def Counted (registry : Registry) : Prop :=
  ∀ base number, 0 < number → number ≤ registry.count base →
    numbered base number ∈ registry.issued

theorem counted_empty : Counted empty := by
  intro base number positive within
  exact absurd within (Nat.not_le.mpr positive)

theorem Counted.issued_of_lt_nextNumber {registry : Registry} (counted : Counted registry)
    {base : String} {number : Nat} (positive : 0 < number)
    (below : number < registry.nextNumber base) : numbered base number ∈ registry.issued := by
  by_cases known : number ≤ registry.count base
  · exact counted base number positive known
  · exact registry.issued_of_lt_nextFree base registry.issued.length (registry.count base) number
      (Nat.lt_of_not_le known) below

/-- A request keeps the counts right, also those of other bases that can ask for its name. -/
theorem Counted.unique {registry : Registry} (counted : Counted registry) (base : String) :
    Counted (registry.unique base).2 := by
  intro other number positive within
  rw [count_unique] at within
  change numbered other number ∈ numbered base (registry.nextNumber base) :: registry.issued
  split at within
  next same =>
    subst same
    rcases Nat.lt_or_eq_of_le within with below | rfl
    · exact List.mem_cons_of_mem _ (counted.issued_of_lt_nextNumber positive below)
    · exact List.mem_cons_self
  next => exact List.mem_cons_of_mem _ (counted other number positive within)

/-! The registry that remembers nothing but the names -/

/-- However many names were returned, a base has one more. -/
theorem exists_free (returned : List String) (base : String) :
    ∃ index, numbered base (index + 1) ∉ returned := by
  let registry : Registry := ⟨[], returned⟩
  obtain ⟨steps, reached⟩ := registry.exists_nextNumber_eq base
  have free : numbered base (registry.nextNumber base) ∉ returned := registry.nextNumber_free base
  rw [reached] at free
  exact ⟨registry.count base + steps, free⟩

/-- The first of the base itself and the base with 2, 3 and so on that was not returned. -/
def firstFree (returned : List String) (base : String) : String :=
  numbered base (Nat.find (exists_free returned base) + 1)

/-- The names for bases that are requested one after another, each by trying all of them. -/
def serveNaively (returned : List String) : List String → List String
  | [] => []
  | base :: later =>
      let name := firstFree returned base
      name :: serveNaively (name :: returned) later

/-- Right counts skip no free name. -/
theorem Counted.unique_eq_firstFree {registry : Registry} (counted : Counted registry)
    (base : String) : (registry.unique base).1 = firstFree registry.issued base := by
  obtain ⟨steps, reached⟩ := registry.exists_nextNumber_eq base
  have free := registry.nextNumber_free base
  rw [reached] at free
  have found : Nat.find (exists_free registry.issued base) = registry.count base + steps := by
    rw [Nat.find_eq_iff]
    refine ⟨free, ?_⟩
    intro earlier before unused
    exact unused (counted.issued_of_lt_nextNumber (Nat.succ_pos earlier) (by omega))
  rw [firstFree, found, ← reached]
  rfl

theorem Counted.serve_eq_serveNaively {registry : Registry} (counted : Counted registry)
    (bases : List String) :
    (registry.serve bases).1 = serveNaively registry.issued bases := by
  induction bases generalizing registry with
  | nil => rfl
  | cons base later ih =>
      rw [serve, serveNaively, ← counted.unique_eq_firstFree base]
      exact congrArg _ (ih (counted.unique base))

/-- A registry knows the names of its requests besides those it knew before. -/
theorem issued_serve (registry : Registry) (bases : List String) :
    (registry.serve bases).2.issued = (registry.serve bases).1.reverse ++ registry.issued := by
  induction bases generalizing registry with
  | nil => rfl
  | cons base later ih =>
      rw [serve]
      dsimp only
      rw [ih, List.reverse_cons, List.append_assoc]
      rfl

theorem nodup_issued_serve {registry : Registry} (distinct : registry.issued.Nodup)
    (bases : List String) : (registry.serve bases).2.issued.Nodup := by
  induction bases generalizing registry with
  | nil => exact distinct
  | cons base later ih => exact ih (nodup_issued_of_unique rfl distinct)

/-- Every search for a name ends, also without a bound, at the first name of the base that was not
returned before. The names are distinct, and the registry holds them and no others. -/
theorem serve_empty (bases : List String) :
    (∀ names last, Serves empty bases names last ↔ empty.serve bases = (names, last)) ∧
      (empty.serve bases).1 = serveNaively [] bases ∧ (empty.serve bases).1.Nodup ∧
        ∀ name, (empty.serve bases).2.contains name = true ↔ name ∈ (empty.serve bases).1 := by
  have issued : (empty.serve bases).2.issued = (empty.serve bases).1.reverse := by
    rw [issued_serve]
    exact List.append_nil _
  refine ⟨fun _ _ => serves_iff, counted_empty.serve_eq_serveNaively bases, ?_, ?_⟩
  · have distinct : (empty.serve bases).2.issued.Nodup := nodup_issued_serve List.nodup_nil bases
    rw [issued] at distinct
    exact (List.reverse_perm _).nodup_iff.mp distinct
  · intro name
    rw [contains, issued, List.contains_iff_mem, List.mem_reverse]

example : (empty.serve ["item2", "item", "item", "item2", "item"]).1 =
    ["item2", "item", "item3", "item22", "item4"] := by
  decide

end DartModels.Name.Registry
