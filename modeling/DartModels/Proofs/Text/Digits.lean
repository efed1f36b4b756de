import DartModels.Text.Blank
import DartModels.Text.DecimalDigit
import Mathlib

/-
Digits at the front of texts, and what the digits of ASCII write.
-/

namespace DartModels.Text

/-! Character classes -/

theorem CharRanges.contains_eq_true_iff {ranges : CharRanges} {c : Char} :
    ranges.contains c = true ↔ ∃ range ∈ ranges, range.1 ≤ c.toNat ∧ c.toNat ≤ range.2 := by
  simp [CharRanges.contains]

theorem CharRanges.isSome_start?_iff {ranges : CharRanges} {c : Char} :
    (ranges.start? c).isSome = true ↔ ranges.contains c = true := by
  rw [CharRanges.start?, Option.isSome_map, List.find?_isSome, CharRanges.contains, List.any_eq_true]

/-- No range meets a range of the other class. -/
def CharRanges.Disjoint (ranges others : CharRanges) : Prop :=
  ∀ range ∈ ranges, ∀ other ∈ others, range.2 < other.1 ∨ other.2 < range.1

theorem CharRanges.Disjoint.contains_eq_false {ranges others : CharRanges}
    (disjoint : ranges.Disjoint others) {c : Char} (member : ranges.contains c = true) :
    others.contains c = false := by
  rw [Bool.eq_false_iff]
  intro both
  obtain ⟨range, known, least, most⟩ := contains_eq_true_iff.mp member
  obtain ⟨other, knownToo, otherLeast, otherMost⟩ := contains_eq_true_iff.mp both
  rcases disjoint range known other knownToo with apart | apart <;> omega

theorem isBlank_of_digit {c : Char} (digit : (digitValue? c).isSome = true) : isBlank c = false := by
  have disjoint : digitRanges.Disjoint blankRanges := by
    unfold CharRanges.Disjoint
    decide +kernel
  rw [digitValue?, Option.isSome_map, CharRanges.isSome_start?_iff] at digit
  exact disjoint.contains_eq_false digit

theorem digitValue?_of_isDigit {c : Char} (digit : c.isDigit = true) :
    digitValue? c = some (c.toNat - '0'.toNat) := by
  simp only [Char.isDigit, Bool.and_eq_true, decide_eq_true_eq] at digit
  have least : 48 ≤ c.toNat := digit.1
  have most : c.toNat ≤ 57 := digit.2
  have start : digitRanges.start? c = some 48 := by
    simp [digitRanges, CharRanges.start?, least, most]
  rw [digitValue?, start, Option.map_some, Nat.mod_eq_of_lt (by omega)]
  rfl

/-! Runs of digits -/

/-- The digits that are read are the longest run of them at the front. -/
theorem spanDigits_eq (value? : Char → Option Nat) (text : List Char) :
    spanDigits value? text =
      ((text.takeWhile fun c => (value? c).isSome).filterMap value?,
        text.dropWhile fun c => (value? c).isSome) := by
  induction text with
  | nil => rfl
  | cons c rest inductionHypothesis =>
      rw [spanDigits]
      cases known : value? c with
      | none => simp [known]
      | some value => simp [known, inductionHypothesis]

/-- No digit stands at the front. -/
def NoDigitFirst (value? : Char → Option Nat) (text : List Char) : Prop :=
  ∀ c ∈ text.head?, value? c = none

theorem noDigitFirst_nil (value? : Char → Option Nat) : NoDigitFirst value? [] := by
  simp [NoDigitFirst]

theorem noDigitFirst_cons {value? : Char → Option Nat} {c : Char} (none : value? c = none)
    (rest : List Char) : NoDigitFirst value? (c :: rest) := by
  simpa [NoDigitFirst] using none

theorem spanDigits_append {value? : Char → Option Nat} {run rest : List Char}
    (digits : ∀ c ∈ run, (value? c).isSome = true) (ends : NoDigitFirst value? rest) :
    spanDigits value? (run ++ rest) = (run.filterMap value?, rest) := by
  rw [spanDigits_eq, List.takeWhile_append_of_pos digits, List.dropWhile_append_of_pos digits]
  cases rest with
  | nil => simp
  | cons c rest =>
      have stop : value? c = none := ends c rfl
      simp [stop]

theorem noDigitFirst_dropWhile (value? : Char → Option Nat) (text : List Char) :
    NoDigitFirst value? (text.dropWhile fun c => (value? c).isSome) := by
  intro c first
  have stop := List.head?_dropWhile_not (fun c => (value? c).isSome) text
  rw [Option.mem_def.mp first] at stop
  simpa using stop

/-! Decimals of ASCII -/

/-- Digits of ASCII, at least one. -/
def IsDecimal (run : List Char) : Prop := run ≠ [] ∧ ∀ c ∈ run, c.isDigit = true

/-- The number that digits of ASCII write. -/
def decimalValue (run : List Char) : Nat := Nat.ofDigitChars 10 run 0

theorem isDecimal_toDigits (number : Nat) : IsDecimal (Nat.toDigits 10 number) :=
  ⟨Nat.toDigits_ne_nil, fun _ => Nat.isDigit_of_mem_toDigits (by decide) (by decide)⟩

theorem decimalValue_toDigits (number : Nat) : decimalValue (Nat.toDigits 10 number) = number :=
  Nat.ofDigitChars_ten_toDigits

theorem decimalValue_append (run later : List Char) :
    decimalValue (run ++ later) = decimalValue run * 10 ^ later.length + decimalValue later := by
  unfold decimalValue
  rw [Nat.ofDigitChars_append, Nat.ofDigitChars_eq_ofDigitChars_zero, Nat.mul_comm]

theorem decimalValue_replicate_zero (count : Nat) : decimalValue (List.replicate count '0') = 0 := by
  rw [decimalValue, Nat.ofDigitChars_replicate_zero, Nat.mul_zero]

theorem decimalValue_zero_cons (run : List Char) : decimalValue ('0' :: run) = decimalValue run := by
  rw [decimalValue, Nat.ofDigitChars_cons]
  rfl

theorem filterMap_digitValue? {run : List Char} (digits : ∀ c ∈ run, c.isDigit = true) :
    run.filterMap digitValue? = run.map fun c => c.toNat - '0'.toNat := by
  induction run with
  | nil => rfl
  | cons c run inductionHypothesis =>
      obtain ⟨own, others⟩ := List.forall_mem_cons.mp digits
      rw [List.filterMap_cons_some (digitValue?_of_isDigit own), inductionHypothesis others,
        List.map_cons]

theorem ofDigits_filterMap {run : List Char} (digits : ∀ c ∈ run, c.isDigit = true) :
    ofDigits (run.filterMap digitValue?) = decimalValue run := by
  rw [filterMap_digitValue? digits, ofDigits, List.foldl_map]
  rfl

theorem length_filterMap_digitValue? {run : List Char} (digits : ∀ c ∈ run, c.isDigit = true) :
    (run.filterMap digitValue?).length = run.length := by
  rw [filterMap_digitValue? digits, List.length_map]

end DartModels.Text
