/-
Texts without certain characters.
-/

namespace DartModels.Text

def Avoids (marks : List Char) (text : String) : Prop :=
  (text.toList.all fun c => !marks.contains c) = true

instance (marks : List Char) (text : String) : Decidable (Avoids marks text) :=
  inferInstanceAs (Decidable ((text.toList.all fun c => !marks.contains c) = true))

/-- A character outside a class does not stand in a text of it. -/
theorem notMem_of_all {text : List Char} {admits : Char → Bool} (all : text.all admits = true)
    {c : Char} (excluded : admits c = false) : c ∉ text := by
  intro member
  rw [List.all_eq_true.mp all c member] at excluded
  cases excluded

namespace Avoids

variable {marks : List Char} {text other : String}

theorem iff_forall : Avoids marks text ↔ ∀ c ∈ text.toList, c ∉ marks := by
  simp [Avoids]

theorem notMem (avoids : Avoids marks text) {c : Char} (mark : c ∈ marks) : c ∉ text.toList :=
  fun member => iff_forall.mp avoids c member mark

theorem of_subset (avoids : Avoids marks text) (part : other.toList ⊆ text.toList) :
    Avoids marks other :=
  iff_forall.mpr fun c member => iff_forall.mp avoids c (part member)

theorem append (avoids : Avoids marks text) (later : Avoids marks other) :
    Avoids marks (text ++ other) := by
  rw [Avoids, String.toList_append, List.all_append, Bool.and_eq_true]
  exact ⟨avoids, later⟩

theorem of_fewer {others : List Char} (avoids : Avoids marks text) (fewer : others ⊆ marks) :
    Avoids others text :=
  iff_forall.mpr fun c member other => iff_forall.mp avoids c member (fewer other)

/-- A text of one class of characters avoids those outside it. -/
theorem of_all {admits : Char → Bool} (all : text.toList.all admits = true)
    (excluded : (marks.all fun c => !admits c) = true) : Avoids marks text := by
  rw [iff_forall]
  intro c member mark
  have refused : admits c = false := by simpa using List.all_eq_true.mp excluded c mark
  exact notMem_of_all all refused member

end Avoids

end DartModels.Text
