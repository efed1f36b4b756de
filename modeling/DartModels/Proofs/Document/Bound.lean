import DartModels.Document.Refusal
import DartModels.Proofs.Number.Extent

/-
Limits on the nesting of a document as bounds among the numbers.
-/

namespace DartModels.Document

open DartModels.Number

namespace DepthLimit

/-- The place of a limit among the numbers; a truth value counts as one or zero. -/
def extent? : DepthLimit → Option Extent
  | .count value => some (value : ℚ)
  | .flag value => some ((if value then 1 else 0 : Int) : ℚ)
  | .real value => value.extent?

/-- All limits but one have their place among the numbers. -/
theorem extent?_of_ne_nan {limit : DepthLimit} (ordered : limit ≠ .real .nan) :
    ∃ extent, limit.extent? = some extent := by
  cases limit with
  | count _ | flag _ => exact ⟨_, rfl⟩
  | real value =>
      cases value with
      | nan => exact absurd rfl ordered
      | infinite _ | finite _ _ _ => exact ⟨_, rfl⟩

theorem compareInt?_eq_cmp {limit : DepthLimit} {extent : Extent}
    (known : limit.extent? = some extent) (n : Int) :
    limit.compareInt? n = some (cmp extent (n : ℚ)) := by
  cases limit with
  | count _ | flag _ =>
      cases known
      rw [compareInt?, cmp_coe, cmp_intCast, cmp_eq_compare]
  | real value => exact Binary64.compareInt?_eq_cmp known n

/-- A depth is beyond a limit that lies below it. -/
theorem isExceededBy_iff {limit : DepthLimit} {extent : Extent}
    (known : limit.extent? = some extent) (depth : Nat) :
    limit.isExceededBy depth = true ↔ extent < depth := by
  rw [isExceededBy, compareInt?_eq_cmp known, beq_iff_eq, Option.some_inj, cmp_eq_lt_iff]
  rfl

/-- A capped limit is the lesser one of the limit and the highest. -/
theorem extent?_capped {limit : DepthLimit} {extent : Extent}
    (known : limit.extent? = some extent) : limit.capped.extent? = some (min extent 200) := by
  have beyond : limit.compareInt? highest = some .gt ↔ 200 < extent := by
    rw [compareInt?_eq_cmp known, Option.some_inj, cmp_eq_gt_iff]
    rfl
  unfold capped
  split
  next above =>
    rw [min_eq_right (beyond.mp above).le]
    rfl
  next within => rw [known, min_eq_left (not_lt.mp fun above => within (beyond.mpr above))]

end DepthLimit

theorem ofConfigured_of_number {maxDepth : Value} {given : DepthLimit}
    (number : DepthLimit.ofValue? maxDepth = some given) :
    DepthLimit.ofConfigured maxDepth = .ok given.capped := by
  rw [DepthLimit.ofConfigured, number]

end DartModels.Document
