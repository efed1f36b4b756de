import DartModels.Text.Blank
import Mathlib

/-
Trimmed texts: what trimming takes away, and that it has nothing left to do afterwards.
-/

namespace DartModels.Text

theorem isBlank_of_isAlphanum {c : Char} (alphanumeric : c.isAlphanum = true) :
    isBlank c = false := by
  have code : (65 ≤ c.toNat ∧ c.toNat ≤ 90 ∨ 97 ≤ c.toNat ∧ c.toNat ≤ 122) ∨
      48 ≤ c.toNat ∧ c.toNat ≤ 57 := by
    simpa [Char.isAlphanum, Char.isAlpha, Char.isUpper, Char.isLower, Char.isDigit,
      UInt32.le_iff_toNat_le] using alphanumeric
  simp only [isBlank, blankRanges, CharRanges.contains, List.any_cons, List.any_nil,
    Bool.or_eq_false_iff, Bool.and_eq_false_iff, decide_eq_false_iff_not, and_true]
  omega

theorem isAlphanum_of_isBlank {c : Char} (blank : isBlank c = true) : c.isAlphanum = false := by
  rw [Bool.eq_false_iff]
  intro alphanumeric
  rw [isBlank_of_isAlphanum alphanumeric] at blank
  cases blank

/-- White space neither begins nor ends the text. -/
structure Unpadded (text : List Char) : Prop where
  head : ∀ c ∈ text.head?, isBlank c = false
  last : ∀ c ∈ text.getLast?, isBlank c = false

/-- The text is what another one has between the white space at its ends. -/
def IsTrimOf (trimmed text : List Char) : Prop :=
  Unpadded trimmed ∧ ∃ front back, text = front ++ (trimmed ++ back) ∧
    (∀ c ∈ front, isBlank c = true) ∧ ∀ c ∈ back, isBlank c = true

theorem trimStart_of_head? {text : List Char} (head : ∀ c ∈ text.head?, isBlank c = false) :
    trimStart text = text := by
  cases text with
  | nil => rfl
  | cons c rest => exact List.dropWhile_cons_of_neg (by simp [head c rfl])

theorem head?_trimStart (text : List Char) : ∀ c ∈ (trimStart text).head?, isBlank c = false := by
  intro c first
  have stop := List.head?_dropWhile_not isBlank text
  rw [← trimStart, Option.mem_def.mp first] at stop
  exact stop

/-- Trimming at the front takes white space away. -/
theorem trimStart_split (text : List Char) :
    ∃ front, text = front ++ trimStart text ∧ ∀ c ∈ front, isBlank c = true :=
  ⟨text.takeWhile isBlank, List.takeWhile_append_dropWhile.symm,
    List.all_eq_true.mp List.all_takeWhile⟩

/-- Trimming at the back does as well. -/
theorem trim_split (text : List Char) :
    ∃ back, trimStart text = trim text ++ back ∧ ∀ c ∈ back, isBlank c = true := by
  obtain ⟨front, split, blank⟩ := trimStart_split (trimStart text).reverse
  refine ⟨front.reverse, ?_, fun c member => blank c (List.mem_reverse.mp member)⟩
  rw [trim, ← List.reverse_append, ← split, List.reverse_reverse]

theorem unpadded_trim (text : List Char) : Unpadded (trim text) where
  head := by
    obtain ⟨back, split, -⟩ := trim_split text
    intro c first
    apply head?_trimStart text
    rw [split, List.head?_append, Option.mem_def.mp first]
    rfl
  last := by
    rw [trim, List.getLast?_reverse]
    exact head?_trimStart _

theorem isTrimOf_trim (text : List Char) : IsTrimOf (trim text) text := by
  obtain ⟨front, split, blank⟩ := trimStart_split text
  obtain ⟨back, splitToo, blankToo⟩ := trim_split text
  exact ⟨unpadded_trim text, front, back, by rw [← splitToo, ← split], blank, blankToo⟩

theorem infix_trim (text : List Char) : trim text <:+: text := by
  obtain ⟨-, front, back, split, -⟩ := isTrimOf_trim text
  exact ⟨front, back, by rw [List.append_assoc, ← split]⟩

theorem Unpadded.trim_eq {text : List Char} (unpadded : Unpadded text) : trim text = text := by
  have last : ∀ c ∈ text.reverse.head?, isBlank c = false := by
    rw [List.head?_reverse]
    exact unpadded.last
  rw [trim, trimStart_of_head? unpadded.head, trimStart_of_head? last, List.reverse_reverse]

/-- White space alone leaves nothing. -/
theorem trim_eq_nil_iff {text : List Char} : trim text = [] ↔ ∀ c ∈ text, isBlank c = true := by
  constructor
  · intro nothing
    obtain ⟨-, front, back, split, blank, blankToo⟩ := isTrimOf_trim text
    rw [split, nothing, List.nil_append]
    exact List.forall_mem_append.mpr ⟨blank, blankToo⟩
  · intro blank
    have nothing : trimStart text = [] := List.dropWhile_eq_nil_iff.mpr blank
    rw [trim, nothing]
    rfl

theorem isEmpty_trimmed (text : String) : (trimmed text).isEmpty = isBlankText text := by
  rw [Bool.eq_iff_iff, String.isEmpty_iff, trimmed, ← String.toList_eq_nil_iff, String.toList_ofList,
    trim_eq_nil_iff, isBlankText, List.all_eq_true]

end DartModels.Text
