import DartModels.Dart.StringLiteral

/-
Reading string literals of Dart back.
-/

namespace DartModels.Dart.StringLiteral

/-- What a backslash and the character after it stand for. -/
def unescapeChar? (c : Char) : Option Char :=
  if c = '\\' ∨ c = '\'' ∨ c = '$' then some c
  else if c = 'n' then some '\n'
  else if c = 'r' then some '\r'
  else none

/-- A character that a literal neither escapes nor ends at. -/
def isOrdinary (c : Char) : Bool :=
  c != '\\' && c != '\'' && c != '$' && c != '\n' && c != '\r'

/-- What a literal denotes that is open at the front of a text, and what follows its closing
quote. -/
def read? : List Char → Option (List Char × List Char)
  | [] => none
  | '\'' :: rest => some ([], rest)
  | '\\' :: c :: rest => do
      let own ← unescapeChar? c
      let (text, after) ← read? rest
      return (own :: text, after)
  | c :: rest =>
      if isOrdinary c then do
        let (text, after) ← read? rest
        return (c :: text, after)
      else none

/-- A character is written by itself or with a backslash and a character that stands for it. -/
inductive Written (c : Char) : Prop
  | plain (ordinary : isOrdinary c = true) (same : escapeChar c = [c])
  | escaped {letter : Char} (pair : escapeChar c = ['\\', letter])
      (back : unescapeChar? letter = some c) (inLine : letter ≠ '\n')

theorem written (c : Char) : Written c := by
  by_cases marked : c = '\\' ∨ c = '\'' ∨ c = '$'
  · refine .escaped ?_ (if_pos marked) ?_
    · simp only [escapeChar, Bool.or_eq_true, decide_eq_true_eq, or_assoc]
      rw [if_pos marked]
    · rintro rfl
      simp at marked
  · have unmarked : escapeChar c =
        if c = '\n' then ['\\', 'n'] else if c = '\r' then ['\\', 'r'] else [c] := by
      simp only [escapeChar, Bool.or_eq_true, decide_eq_true_eq, or_assoc]
      rw [if_neg marked]
    by_cases feed : c = '\n'
    · subst feed
      exact .escaped unmarked (by decide) (by decide)
    by_cases carriage : c = '\r'
    · subst carriage
      exact .escaped unmarked (by decide) (by decide)
    rw [if_neg feed, if_neg carriage] at unmarked
    refine .plain ?_ unmarked
    simp only [not_or] at marked
    simp [isOrdinary, marked, feed, carriage]

theorem read?_cons_of_ordinary {c : Char} (ordinary : isOrdinary c = true) (rest : List Char) :
    read? (c :: rest) = (read? rest).map fun found => (c :: found.1, found.2) := by
  have noQuote : c ≠ '\'' := by
    rintro rfl
    cases ordinary
  have noBackslash : c ≠ '\\' := by
    rintro rfl
    cases ordinary
  rw [read?]
  · rw [if_pos ordinary]
    cases read? rest <;> rfl
  · exact noQuote
  · intro _ _ same
    exact absurd same noBackslash

/-- Reading a literal back gives the text that it was written for, and stops at its end. -/
theorem read?_escapeChars (text rest : List Char) :
    read? (escapeChars text ++ '\'' :: rest) = some (text, rest) := by
  induction text with
  | nil => rfl
  | cons c text ih =>
      rw [escapeChars, List.flatMap_cons, List.append_assoc]
      change read? (escapeChar c ++ (escapeChars text ++ '\'' :: rest)) = _
      cases written c with
      | plain ordinary same =>
          rw [same, List.singleton_append, read?_cons_of_ordinary ordinary, ih]
          rfl
      | escaped pair back inLine =>
          rw [pair, List.cons_append, List.singleton_append, read?, back, ih]
          rfl

/-- What stands for a character after a backslash is no reason to escape anything ordinary. -/
theorem isOrdinary_of_unescapeChar? {letter c : Char} (back : unescapeChar? letter = some c) :
    isOrdinary c = false := by
  unfold unescapeChar? at back
  split at back
  next marked =>
    cases back
    rcases marked with rfl | rfl | rfl <;> rfl
  next =>
    split at back
    · cases back
      rfl
    · split at back
      · cases back
        rfl
      · cases back

/-- An escaped text holds no character that is escaped and stands for nothing after a backslash. -/
theorem notMem_escapeChars {mark : Char} (special : isOrdinary mark = false)
    (unread : unescapeChar? mark = none) (text : List Char) : mark ∉ escapeChars text := by
  intro member
  obtain ⟨c, inside, member⟩ := List.mem_flatMap.mp member
  cases written c with
  | plain ordinary same =>
      rw [same, List.mem_singleton] at member
      subst member
      rw [special] at ordinary
      cases ordinary
  | escaped pair back inLine =>
      rw [pair] at member
      rcases List.mem_cons.mp member with rfl | member
      · cases unread
      · rw [List.mem_singleton.mp member, back] at unread
        cases unread

/-- A literal stays on its line. -/
theorem newline_notMem_escapeChars (text : List Char) : '\n' ∉ escapeChars text :=
  notMem_escapeChars rfl rfl text

end DartModels.Dart.StringLiteral
