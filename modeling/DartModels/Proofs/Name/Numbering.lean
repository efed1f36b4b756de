import DartModels.Name.Registry

/-
Numbered names never meet, so a registry always finds a free one.
-/

namespace DartModels.Name.Registry

/-- Every number is written with a digit at least. -/
theorem number_ne_empty (number : Nat) : toString number ≠ "" := by
  intro empty
  have digits := congrArg String.toList empty
  simp at digits

/-- The digits of a number determine it. -/
theorem number_injective {first second : Nat} (same : toString first = toString second) :
    first = second := by
  have digits := congrArg (fun text => Nat.ofDigitChars 10 text.toList 0) same
  simpa [Nat.toString_eq_ofList_toDigits] using digits

/-- Different numbers of one base give different names. -/
theorem numbered_injective (base : String) {first second : Nat}
    (same : numbered base first = numbered base second) : first = second := by
  unfold numbered at same
  split at same <;> split at same
  · omega
  · have empty := (String.append_right_inj base).mp (String.append_empty.trans same)
    exact absurd empty.symm (number_ne_empty second)
  · have empty := (String.append_right_inj base).mp (same.trans String.append_empty.symm)
    exact absurd empty (number_ne_empty first)
  · exact number_injective ((String.append_right_inj base).mp same)

/-- The search passes over names that were handed out, and over nothing else. -/
theorem issued_of_lt_nextFree (registry : Registry) (base : String) (tries last number : Nat)
    (above : last < number) (below : number < registry.nextFree base tries last) :
    numbered base number ∈ registry.issued := by
  induction tries generalizing last with
  | zero =>
      rw [nextFree] at below
      omega
  | succ tries ih =>
      rw [nextFree] at below
      split at below
      next used =>
        by_cases next : number = last + 1
        · subst next
          exact List.contains_iff_mem.mp used
        · exact ih (last + 1) (by omega) below
      next => omega

/-- The search stops at a free name unless its tries are used up. -/
theorem nextFree_free_or_last (registry : Registry) (base : String) (tries last : Nat) :
    numbered base (registry.nextFree base tries last) ∉ registry.issued ∨
      registry.nextFree base tries last = last + tries + 1 := by
  induction tries generalizing last with
  | zero => exact Or.inr rfl
  | succ tries ih =>
      rw [nextFree]
      split
      next =>
        rcases ih (last + 1) with free | spent
        · exact Or.inl free
        · exact Or.inr (by omega)
      next unused =>
        exact Or.inl fun used => unused (List.contains_iff_mem.mpr used)

/-- Numbered names that all were handed out are no more than the names handed out. -/
theorem count_le_of_issued (registry : Registry) (base : String) (start count : Nat)
    (issued : ∀ number, start ≤ number → number < start + count →
      numbered base number ∈ registry.issued) :
    count ≤ registry.issued.length := by
  let names := (List.range' start count).map (numbered base)
  have numbers : (List.range' start count).Nodup := List.nodup_range'
  have distinct : names.Nodup := by
    rw [List.nodup_iff_pairwise_ne, List.pairwise_map]
    exact numbers.imp fun different same => different (numbered_injective base same)
  have inside : names ⊆ registry.issued := by
    intro name member
    obtain ⟨number, within, rfl⟩ := List.mem_map.mp member
    obtain ⟨lower, upper⟩ := List.mem_range'_1.mp within
    exact issued number lower upper
  simpa [names] using distinct.length_le_of_subset inside

/-- One more try than there are names handed out is enough to find a free one. -/
theorem nextNumber_free (registry : Registry) (base : String) :
    numbered base (registry.nextNumber base) ∉ registry.issued := by
  intro used
  rcases registry.nextFree_free_or_last base registry.issued.length (registry.count base) with
    free | spent
  · exact free used
  · have bound := registry.count_le_of_issued base (registry.count base + 1)
      (registry.issued.length + 1) (by
        intro number lower upper
        by_cases final : number = registry.nextNumber base
        · rw [final]
          exact used
        · apply registry.issued_of_lt_nextFree base registry.issued.length (registry.count base)
          · omega
          · rw [nextNumber] at final
            omega)
    omega

/-- A name that is handed out was not handed out before. -/
theorem unique_fresh (registry : Registry) (base : String) :
    (registry.unique base).1 ∉ registry.issued :=
  registry.nextNumber_free base

variable {registry next : Registry} {base name : String}

theorem fresh_of_unique (named : registry.unique base = (name, next)) :
    name ∉ registry.issued := by
  have fresh := registry.unique_fresh base
  rwa [named] at fresh

theorem issued_of_unique (named : registry.unique base = (name, next)) :
    next.issued = name :: registry.issued := by
  obtain ⟨rfl, rfl⟩ := Prod.mk.inj named
  rfl

/-- The names handed out stay distinct. -/
theorem nodup_issued_of_unique (named : registry.unique base = (name, next))
    (distinct : registry.issued.Nodup) : next.issued.Nodup := by
  rw [issued_of_unique named]
  exact List.nodup_cons.mpr ⟨fresh_of_unique named, distinct⟩

end DartModels.Name.Registry
