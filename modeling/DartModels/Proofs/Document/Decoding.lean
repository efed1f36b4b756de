import DartModels.Document.Reader
import DartModels.Proofs.Checked
import DartModels.Proofs.Document.Offences
import DartModels.Proofs.Number.Leading

/-
What a JSON text decodes to: no value of a foreign type. An integer that is too long to be decoded
stands in the text.
-/

namespace DartModels.Document

open DartModels.Number
open DartModels.Text

namespace Value

theorem entriesSupported_insertEntry {key value : Value} {entries : List (Value × Value)}
    (own : value.isSupported = true) (others : entriesSupported entries = true) :
    entriesSupported (insertEntry key value entries) = true := by
  induction entries with
  | nil => rw [insertEntry, entriesSupported, own, others, Bool.and_self]
  | cons entry rest ih =>
      obtain ⟨known, old⟩ := entry
      obtain ⟨first, later⟩ := Bool.and_eq_true_iff.mp others
      rw [insertEntry]
      split
      · rw [entriesSupported, own, later, Bool.and_self]
      · rw [entriesSupported, first, ih later, Bool.and_self]

/-- A mapping is supported if its entries are, whether or not keys repeat. -/
theorem isSupported_ofEntries {entries : List (Value × Value)}
    (supported : entriesSupported entries = true) : (ofEntries entries).isSupported = true := by
  suffices ∀ known, entriesSupported known = true →
      entriesSupported
        (entries.foldl (fun known entry => insertEntry entry.1 entry.2 known) known) = true from
    this [] rfl
  induction entries with
  | nil => exact fun _ known => known
  | cons entry rest ih =>
      obtain ⟨first, later⟩ := Bool.and_eq_true_iff.mp supported
      exact fun known before => ih later _ (entriesSupported_insertEntry first before)

end Value

namespace Reader

theorem isSupported_number {text rest : List Char} {value : Value}
    (read : number text = .ok (value, rest)) : value.isSupported = true := by
  unfold number at read
  dsimp only at read
  -- The first case split is on the sign, which makes no difference.
  split at read
  all_goals
    split at read
    · cases read
    · split at read
      · split at read
        · cases read
          rfl
        · cases read
      · cases read
        rfl

theorem isSupported_scalar {text rest : List Char} {value : Value}
    (read : scalar text = .ok (value, rest)) : value.isSupported = true := by
  unfold scalar at read
  split at read
  next found known =>
    cases read
    obtain ⟨word, member, after⟩ := List.exists_of_findSome?_eq_some known
    obtain ⟨_, -, same⟩ := Option.map_eq_some_iff.mp after
    cases same
    have each : ∀ word ∈ words, word.2.isSupported = true := by decide
    exact each word member
  next => exact isSupported_number read

mutual

/-- A value that is read is supported. -/
theorem isSupported_value : (fuel : Nat) → {text rest : List Char} → {found : Value} →
    value fuel text = .ok (found, rest) → found.isSupported = true
  | 0, _, _, _, read => by cases read
  | fuel + 1, text, rest, found, read => by
      unfold value at read
      split at read
      · obtain ⟨⟨name, behind⟩, -, read⟩ := bind_eq_ok.mp read
        cases read
        rfl
      · split at read
        · cases read
          rfl
        · obtain ⟨⟨items, behind⟩, inside, read⟩ := bind_eq_ok.mp read
          cases read
          exact itemsSupported_elements fuel inside
      · split at read
        · cases read
          rfl
        · obtain ⟨⟨entries, behind⟩, inside, read⟩ := bind_eq_ok.mp read
          cases read
          exact Value.isSupported_ofEntries (entriesSupported_members fuel inside)
      · exact isSupported_scalar read

theorem itemsSupported_elements : (fuel : Nat) → {text rest : List Char} → {items : List Value} →
    elements fuel text = .ok (items, rest) → Value.itemsSupported items = true
  | 0, _, _, _, read => by cases read
  | fuel + 1, text, rest, items, read => by
      unfold elements at read
      obtain ⟨⟨item, behind⟩, inside, read⟩ := bind_eq_ok.mp read
      have own := isSupported_value fuel inside
      dsimp only at read
      split at read
      · cases read
        rw [Value.itemsSupported, own]
        rfl
      · obtain ⟨⟨others, after⟩, later, read⟩ := bind_eq_ok.mp read
        cases read
        rw [Value.itemsSupported, own, itemsSupported_elements fuel later, Bool.and_self]
      · cases read

theorem entriesSupported_members : (fuel : Nat) → {text rest : List Char} →
    {entries : List (Value × Value)} → members fuel text = .ok (entries, rest) →
    Value.entriesSupported entries = true
  | 0, _, _, _, read => by cases read
  | fuel + 1, text, rest, entries, read => by
      unfold members at read
      obtain ⟨⟨name, colon⟩, -, read⟩ := bind_eq_ok.mp read
      obtain ⟨⟨item, behind⟩, inside, read⟩ := bind_eq_ok.mp read
      have own := isSupported_value fuel inside
      dsimp only at read
      split at read
      · cases read
        rw [Value.entriesSupported, own]
        rfl
      · obtain ⟨⟨others, after⟩, later, read⟩ := bind_eq_ok.mp read
        cases read
        rw [Value.entriesSupported, own, entriesSupported_members fuel later, Bool.and_self]
      · cases read

end

end Reader

/-- More digits than are admitted stand next to one another in the text. -/
def HasLongRun (text : List Char) (excess : TooManyDigits) : Prop :=
  ∃ run, run <:+: text ∧ (∀ c ∈ run, c.isDigit = true) ∧ maxDigits < run.length ∧
    excess = ⟨run.length⟩

theorem HasLongRun.wider {inner text : List Char} {excess : TooManyDigits}
    (inside : inner <:+: text) (long : HasLongRun inner excess) : HasLongRun text excess := by
  obtain ⟨run, within, digits, length⟩ := long
  exact ⟨run, within.trans inside, digits, length⟩

namespace Reader

/-- Reading leaves an end of the text, and too many digits stop it only where they stand. -/
def Consumes {Answer : Type} (text : List Char) (result : Except Stop (Answer × List Char)) :
    Prop :=
  Settles (fun found => found.2 <:+ text)
    (fun stop => ∀ excess, stop = .tooManyDigits excess → HasLongRun text excess) result

namespace Consumes

variable {Answer Next : Type} {text inner rest : List Char}

theorem ok (answer : Answer) (suffix : rest <:+ text) :
    Consumes text (.ok (answer, rest)) := suffix

theorem fault (kind : Fault.Kind) (remaining : Nat) :
    Consumes text (.error (.fault kind remaining) : Except Stop (Answer × List Char)) := by
  intro excess stopped
  cases stopped

theorem of_suffix {result : Except Stop (Answer × List Char)} (suffix : inner <:+ text)
    (consumed : Consumes inner result) : Consumes text result :=
  consumed.imp (fun _ left => left.trans suffix)
    fun _ stopped excess same => (stopped excess same).wider suffix.isInfix

theorem bind {result : Except Stop (Answer × List Char)}
    {next : Answer × List Char → Except Stop (Next × List Char)}
    (first : Consumes text result)
    (later : ∀ answer rest, rest <:+ text → Consumes rest (next (answer, rest))) :
    Consumes text (result >>= next) :=
  Settles.bind first fun found left => (later found.1 found.2 left).of_suffix left

end Consumes

theorem skipSpace_suffix (text : List Char) : skipSpace text <:+ text :=
  List.dropWhile_suffix isSpace

theorem codeUnit?_suffix {text rest : List Char} {unit : Nat}
    (found : codeUnit? text = some (unit, rest)) : rest <:+ text := by
  unfold codeUnit? at found
  split at found
  next a b c d behind =>
    simp only [Option.bind_eq_bind, Option.bind_eq_some_iff] at found
    obtain ⟨_, -, _, -, _, -, _, -, same⟩ := found
    cases same
    exact ⟨[a, b, c, d], rfl⟩
  next => cases found

theorem consumes_codePoint (start : List Char) : Consumes start (codePoint start) := by
  unfold codePoint
  dsimp only
  split
  · exact .fault _ _
  · split
    · exact .fault _ _
    next unit rest found =>
      have left : rest <:+ start := (codeUnit?_suffix found).trans (List.drop_suffix 1 start)
      split
      next second =>
        have behind : second <:+ start := by
          refine List.IsSuffix.trans ?_ left
          exact ⟨['\\', 'u'], rfl⟩
        split
        · split
          · exact .fault _ _
          next low after found =>
            split
            · exact .ok _ ((codeUnit?_suffix found).trans behind)
            · exact .ok _ left
        · exact .ok _ left
      · exact .ok _ left

theorem consumes_readString (start fuel : Nat) (text : List Char) :
    Consumes text (readString start fuel text) := by
  fun_induction readString start fuel text with
  | case1 | case2 | case4 | case6 | case8 => exact .fault _ _
  | case3 fuel rest => exact .ok _ (List.suffix_cons _ _)
  | case5 fuel rest ih =>
      refine .of_suffix (List.suffix_cons _ _) ?_
      refine (consumes_codePoint ('u' :: rest)).bind fun c after _ => ?_
      exact (ih after).bind fun cs last left => .ok (c :: cs) (List.suffix_refl last)
  | case7 fuel letter rest other c known ih =>
      refine .of_suffix ((List.suffix_cons letter rest).trans (List.suffix_cons _ _)) ?_
      exact ih.bind fun cs last left => .ok (c :: cs) (List.suffix_refl last)
  | case9 fuel c rest _ _ _ _ _ ih =>
      refine .of_suffix (List.suffix_cons c rest) ?_
      exact ih.bind fun cs last left => .ok (c :: cs) (List.suffix_refl last)

theorem consumes_string (rest : List Char) : Consumes rest (string rest) :=
  (consumes_readString _ _ rest).bind fun cs after _ =>
    .ok (String.ofList cs) (List.suffix_refl after)

theorem spanDigits_suffix (value? : DigitClass) (text : List Char) :
    (spanDigits value? text).2 <:+ text := by
  obtain ⟨run, split, -⟩ := spanDigits_split value? text
  exact ⟨run, split.symm⟩

theorem takeSign_suffix (text : List Char) : (takeSign text).2 <:+ text := by
  obtain ⟨sign, -, split, -⟩ := takeSign_split text
  exact ⟨sign, split.symm⟩

theorem takeFraction_suffix {least : Nat} {text rest : List Char} {digits : List Nat}
    (found : takeFraction asciiDigitValue? least text = some (digits, rest)) : rest <:+ text := by
  unfold takeFraction at found
  split at found
  next behind =>
    dsimp only at found
    split at found
    · cases found
      exact (spanDigits_suffix asciiDigitValue? behind).trans (List.suffix_cons _ behind)
    · cases found
  next => cases found

theorem takeExponent_suffix {text rest : List Char} {exponent : Int}
    (found : takeExponent asciiDigitValue? text = some (exponent, rest)) : rest <:+ text := by
  unfold takeExponent at found
  split at found
  next c behind =>
    split at found
    · dsimp only at found
      split at found
      · cases found
      next digits after _ spanned =>
        cases found
        have left := spanDigits_suffix asciiDigitValue? (takeSign behind).2
        rw [spanned] at left
        exact left.trans ((takeSign_suffix behind).trans (List.suffix_cons c behind))
    · cases found
  next => cases found

/-- The digits of the whole part stand in the text, unless it is a single zero. -/
theorem wholePart_split (text : List Char) :
    ∃ run, text = run ++ (wholePart text).2 ∧ (∀ c ∈ run, c.isDigit = true) ∧
      run.length = (wholePart text).1.length := by
  unfold wholePart
  split
  next rest => exact ⟨['0'], rfl, List.forall_mem_singleton.mpr rfl, rfl⟩
  next =>
    obtain ⟨run, split, digits, length⟩ := spanDigits_split asciiDigitValue? text
    refine ⟨run, split, fun c member => ?_, length⟩
    have known := digits c member
    unfold asciiDigitValue? at known
    split at known
    next digit => exact digit
    next => cases known

/-- What is left of a number after its fraction and its exponent, if it has them. -/
theorem afterExponent_suffix (text : List Char) :
    let afterFraction := ((takeFraction asciiDigitValue? 1 text).map Prod.snd).getD text
    ((takeExponent asciiDigitValue? afterFraction).map Prod.snd).getD afterFraction <:+ text := by
  intro afterFraction
  have first : afterFraction <:+ text := by
    dsimp only [afterFraction]
    cases found : takeFraction asciiDigitValue? 1 text with
    | none => exact List.suffix_refl text
    | some taken => exact takeFraction_suffix found
  cases found : takeExponent asciiDigitValue? afterFraction with
  | none => exact first
  | some taken => exact (takeExponent_suffix found).trans first

theorem hasLongRun_of_ofSignedDigits {text : List Char} {negative : Bool} {excess : TooManyDigits}
    (failed : ofSignedDigits negative (wholePart text).1 = .error excess) :
    HasLongRun text excess := by
  obtain ⟨run, split, digits, length⟩ := wholePart_split text
  unfold ofSignedDigits at failed
  split at failed
  next long =>
    cases failed
    exact ⟨run, ⟨[], (wholePart text).2, split.symm⟩, digits, length ▸ long, by rw [length]⟩
  next => cases failed

/-- What is left of a number without its sign. -/
theorem afterNumber_suffix (unsigned : List Char) :
    let afterWhole := (wholePart unsigned).2
    let afterFraction := ((takeFraction asciiDigitValue? 1 afterWhole).map Prod.snd).getD afterWhole
    ((takeExponent asciiDigitValue? afterFraction).map Prod.snd).getD afterFraction <:+
      unsigned := by
  obtain ⟨run, split, -⟩ := wholePart_split unsigned
  exact (afterExponent_suffix _).trans ⟨run, split.symm⟩

theorem consumes_number (text : List Char) : Consumes text (number text) := by
  unfold number
  dsimp only
  split
  case' h_1 rest => refine .of_suffix (List.suffix_cons '-' rest) ?_
  -- From here on the sign makes no difference.
  all_goals
    split
    · exact .fault _ _
    · split
      · split
        next value read => exact .ok _ (afterNumber_suffix _)
        next excess failed =>
          intro other stopped
          cases stopped
          exact hasLongRun_of_ofSignedDigits failed
      · exact .ok _ (afterNumber_suffix _)

theorem consumes_scalar (text : List Char) : Consumes text (scalar text) := by
  unfold scalar
  split
  next found known =>
    obtain ⟨word, -, after⟩ := List.exists_of_findSome?_eq_some known
    obtain ⟨rest, behind, same⟩ := Option.map_eq_some_iff.mp after
    cases same
    exact .ok _ ⟨word.1.toList, (eq_append_of_afterWord? behind).symm⟩
  next => exact consumes_number text

theorem consumes_memberName (text : List Char) : Consumes text (memberName text) := by
  unfold memberName
  split
  next rest =>
    refine .of_suffix (List.suffix_cons '"' rest) ?_
    refine (consumes_string rest).bind fun name after _ => ?_
    dsimp only
    split
    next behind found =>
      have left := skipSpace_suffix after
      rw [found] at left
      exact .ok _ ((skipSpace_suffix behind).trans ((List.suffix_cons ':' behind).trans left))
    next => exact .fault _ _
  next => exact .fault _ _

mutual

/-- A value is read off the front of the text. -/
theorem consumes_value : (fuel : Nat) → (text : List Char) → Consumes text (value fuel text)
  | 0, _ => .fault _ _
  | fuel + 1, text => by
      unfold value
      split
      next rest =>
        refine .of_suffix (List.suffix_cons '"' rest) ?_
        exact (consumes_string rest).bind fun name after _ =>
          .ok (Value.text name) (List.suffix_refl after)
      next rest =>
        refine .of_suffix ((skipSpace_suffix rest).trans (List.suffix_cons '[' rest)) ?_
        split
        next behind found =>
          rw [found]
          exact .ok _ (List.suffix_cons ']' behind)
        next inner found =>
          exact (consumes_elements fuel (skipSpace rest)).bind fun items after _ =>
            .ok (Value.list items) (List.suffix_refl after)
      next rest =>
        refine .of_suffix ((skipSpace_suffix rest).trans (List.suffix_cons _ rest)) ?_
        split
        next behind found =>
          rw [found]
          exact .ok _ (List.suffix_cons _ behind)
        next inner found =>
          exact (consumes_members fuel (skipSpace rest)).bind fun entries after _ =>
            .ok (Value.ofEntries entries) (List.suffix_refl after)
      next => exact consumes_scalar text

theorem consumes_elements : (fuel : Nat) → (text : List Char) →
    Consumes text (elements fuel text)
  | 0, _ => .fault _ _
  | fuel + 1, text => by
      unfold elements
      refine (consumes_value fuel text).bind fun item rest _ => ?_
      dsimp only
      refine .of_suffix (skipSpace_suffix rest) ?_
      split
      next behind found =>
        rw [found]
        exact .ok _ (List.suffix_cons ']' behind)
      next behind found =>
        rw [found]
        refine .of_suffix ((skipSpace_suffix behind).trans (List.suffix_cons ',' behind)) ?_
        exact (consumes_elements fuel (skipSpace behind)).bind fun items after _ =>
          .ok (item :: items) (List.suffix_refl after)
      next => exact .fault _ _

theorem consumes_members : (fuel : Nat) → (text : List Char) →
    Consumes text (members fuel text)
  | 0, _ => .fault _ _
  | fuel + 1, text => by
      unfold members
      refine (consumes_memberName text).bind fun name colon _ => ?_
      refine (consumes_value fuel colon).bind fun item rest _ => ?_
      dsimp only
      refine .of_suffix (skipSpace_suffix rest) ?_
      split
      next behind found =>
        rw [found]
        exact .ok _ (List.suffix_cons _ behind)
      next behind found =>
        rw [found]
        refine .of_suffix ((skipSpace_suffix behind).trans (List.suffix_cons ',' behind)) ?_
        exact (consumes_members fuel (skipSpace behind)).bind fun entries after _ =>
          .ok ((Value.text name, item) :: entries) (List.suffix_refl after)
      next => exact .fault _ _

end

end Reader

end DartModels.Document
