import Mathlib.Logic.Relation
import DartModels.Options.Override

/-
The last override for a key, and changes of a list of overrides that leave it as it is.
-/

namespace DartModels.Options.Override

open DartModels.Document

def HasTextKey (override : Override) : Prop := ∃ key, override.key = .text key

def lastFor (key : String) (overrides : List Override) : Option Override :=
  (overrides.filter fun override => override.isFor key).getLast?

theorem find?_eq_lastFor (key : String) (overrides : List Override) :
    find? key overrides = lastFor key overrides := by
  induction overrides with
  | nil => rfl
  | cons override rest ih =>
      rw [find?, ih]
      unfold lastFor
      rw [List.filter_cons]
      cases override.isFor key with
      | false =>
          rw [if_neg Bool.false_ne_true, if_neg Bool.false_ne_true]
          cases (rest.filter fun other => other.isFor key).getLast? <;> rfl
      | true =>
          rw [if_pos rfl, if_pos rfl, List.getLast?_cons]
          cases (rest.filter fun other => other.isFor key).getLast? <;> rfl

/-- The override that is looked up is one of the list. -/
theorem mem_of_find? {key : String} {overrides : List Override} {override : Override}
    (found : find? key overrides = some override) : override ∈ overrides := by
  rw [find?_eq_lastFor, lastFor] at found
  exact (List.mem_filter.mp (List.mem_of_getLast? found)).1

theorem isFor_of_key {override : Override} {own : String} (keyed : override.key = .text own)
    (key : String) : override.isFor key = (own == key) := by
  unfold isFor
  rw [keyed]

/-- One change of a list: overrides of two keys change places, or one goes that a later one shadows
or that is for none of the keys. -/
inductive Rearranged (keys : List String) : List Override → List Override → Prop
  | exchanged {before after : List Override} {first second : Override} {one other : String}
      (firstKey : first.key = .text one) (secondKey : second.key = .text other)
      (apart : one ≠ other) :
      Rearranged keys (before ++ first :: second :: after) (before ++ second :: first :: after)
  | shadowed {before after : List Override} {dropped later : Override} {own : String}
      (keyed : dropped.key = .text own) (again : later.key = .text own)
      (shadow : later ∈ after) :
      Rearranged keys (before ++ dropped :: after) (before ++ after)
  | absent {before after : List Override} {dropped : Override} {own : String}
      (keyed : dropped.key = .text own) (foreign : own ∉ keys) :
      Rearranged keys (before ++ dropped :: after) (before ++ after)

/-- A change leaves the last override for each of the keys as it is. -/
theorem Rearranged.lastFor_eq {keys : List String} {first second : List Override}
    (change : Rearranged keys first second) {key : String} (member : key ∈ keys) :
    lastFor key first = lastFor key second := by
  cases change with
  | @exchanged before after first second one other firstKey secondKey apart =>
      simp only [lastFor, List.filter_append, List.filter_cons, isFor_of_key firstKey,
        isFor_of_key secondKey, beq_iff_eq]
      by_cases own : one = key
      · have foreign : other ≠ key := fun same => apart (own.trans same.symm)
        rw [if_neg foreign, if_neg foreign]
      · rw [if_neg own, if_neg own]
  | @shadowed before after dropped later own keyed again shadow =>
      simp only [lastFor, List.filter_append, List.filter_cons, isFor_of_key keyed, beq_iff_eq]
      by_cases same : own = key
      · have kept : later ∈ after.filter fun override => override.isFor key :=
          List.mem_filter.mpr ⟨shadow, by simp [isFor_of_key again, same]⟩
        obtain ⟨last, found⟩ := Option.isSome_iff_exists.mp
          (List.getLast?_isSome.mpr (List.ne_nil_of_mem kept))
        rw [if_pos same, List.getLast?_append, List.getLast?_append, List.getLast?_cons, found]
        rfl
      · rw [if_neg same]
  | @absent before after dropped own keyed foreign =>
      have other : own ≠ key := fun same => foreign (same ▸ member)
      simp only [lastFor, List.filter_append, List.filter_cons, isFor_of_key keyed, beq_iff_eq]
      rw [if_neg other]

/-- So do any number of changes in either direction. -/
theorem lastFor_eq_of_rearranged {keys : List String} {first second : List Override}
    (changes : Relation.EqvGen (Rearranged keys) first second) {key : String}
    (member : key ∈ keys) : lastFor key first = lastFor key second := by
  induction changes with
  | rel _ _ change => exact change.lastFor_eq member
  | refl _ => rfl
  | symm _ _ _ ih => exact ih.symm
  | trans _ _ _ _ _ first second => exact first.trans second

end DartModels.Options.Override
