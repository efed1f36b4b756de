import DartModels.Proofs.Dart.Scan

/-
Escaping as replacements one after another, and what it makes of a literal: nothing in the text can
end it or leave it open.
-/

namespace DartModels.Dart.StringLiteral

/-- Puts a word in the place of every occurrence of a character. -/
def replaceAll (text : List Char) (mark : Char) (word : List Char) : List Char :=
  text.flatMap fun c => if c = mark then word else [c]

/-- The characters to escape with what is written for them; the backslash is first, since all the
others bring backslashes with them. -/
def replacements : List (Char × List Char) :=
  [('\\', ['\\', '\\']), ('\'', ['\\', '\'']), ('$', ['\\', '$']), ('\n', ['\\', 'n']),
    ('\r', ['\\', 'r'])]

/-- Each replacement works on what the ones before it have made of the text. -/
def replaceInTurn (passes : List (Char × List Char)) (text : List Char) : List Char :=
  passes.foldl (fun text pass => replaceAll text pass.1 pass.2) text

/-- Replacements in turn treat each character of a text by itself. -/
theorem replaceInTurn_eq_flatMap (passes : List (Char × List Char)) (text : List Char) :
    replaceInTurn passes text = text.flatMap fun c => replaceInTurn passes [c] := by
  induction passes generalizing text with
  | nil => exact (List.flatMap_singleton' text).symm
  | cons pass rest ih =>
      have later (first : List Char) : replaceInTurn (pass :: rest) first =
          replaceInTurn rest (replaceAll first pass.1 pass.2) := rfl
      rw [later, ih, replaceAll, List.flatMap_assoc]
      congr 1
      funext c
      rw [later, replaceAll, List.flatMap_singleton, ← ih]

/-- After the backslashes were doubled, no replacement touches what another one has written. -/
theorem replaceInTurn_singleton (c : Char) : replaceInTurn replacements [c] = escapeChar c := by
  by_cases backslash : c = '\\'
  · subst backslash
    decide
  by_cases quote : c = '\''
  · subst quote
    decide
  by_cases dollar : c = '$'
  · subst dollar
    decide
  by_cases feed : c = '\n'
  · subst feed
    decide
  by_cases carriage : c = '\r'
  · subst carriage
    decide
  simp [replaceInTurn, replacements, replaceAll, escapeChar, *]

theorem replaceInTurn_replacements (text : List Char) :
    replaceInTurn replacements text = escapeChars text := by
  rw [replaceInTurn_eq_flatMap, escapeChars]
  congr 1
  funext c
  exact replaceInTurn_singleton c

theorem escape_append (text more : String) :
    escape (text ++ more) = escape text ++ escape more := by
  rw [escape, escapeChars, String.toList_append, List.flatMap_append, String.ofList_append]
  rfl

/-- Ordinary characters are written as they are. -/
theorem escapeChars_eq_self {text : List Char} (ordinary : ∀ c ∈ text, isOrdinary c = true) :
    escapeChars text = text := by
  induction text with
  | nil => rfl
  | cons c text ih =>
      rw [List.forall_mem_cons] at ordinary
      rw [escapeChars, List.flatMap_cons, ← escapeChars, ih ordinary.2]
      cases written c with
      | plain _ same => rw [same, List.singleton_append]
      | escaped _ back _ =>
          have special := isOrdinary_of_unescapeChar? back
          rw [ordinary.1] at special
          cases special

theorem escape_eq_self {text : String} (ordinary : ∀ c ∈ text.toList, isOrdinary c = true) :
    escape text = text := by
  rw [escape, escapeChars_eq_self ordinary, String.ofList_toList]

/-- The characters that belong to no escape: a backslash takes along the one after it, and only a
backslash at the end is left by itself. -/
def unescaped : List Char → List Char
  | [] => []
  | '\\' :: _ :: rest => unescaped rest
  | c :: rest => c :: unescaped rest

theorem unescaped_cons {c : Char} (other : c ≠ '\\') (rest : List Char) :
    unescaped (c :: rest) = c :: unescaped rest := by
  rw [unescaped]
  intro _ _ same
  exact absurd same other

/-- Escaping leaves the ordinary characters of a text by themselves and no others. -/
theorem unescaped_escapeChars (text : List Char) :
    unescaped (escapeChars text) = text.filter isOrdinary := by
  induction text with
  | nil => rfl
  | cons c text ih =>
      rw [escapeChars, List.flatMap_cons, ← escapeChars]
      cases written c with
      | plain ordinary same =>
          have other : c ≠ '\\' := by
            rintro rfl
            cases ordinary
          rw [same, List.singleton_append, unescaped_cons other, ih,
            List.filter_cons_of_pos ordinary]
      | escaped pair back inLine =>
          have special : ¬isOrdinary c = true := by
            rw [isOrdinary_of_unescapeChar? back]
            exact Bool.false_ne_true
          rw [pair, List.cons_append, List.singleton_append, unescaped, ih,
            List.filter_cons_of_neg special]

/-- The inside of a literal stays on its line, and no escape is open at its end; a quote, a dollar
or a backslash stands only in an escape. -/
structure Closed (body : List Char) : Prop where
  noFeed : '\n' ∉ body
  noReturn : '\r' ∉ body
  ordinary : ∀ c ∈ unescaped body, isOrdinary c = true

theorem closed_escapeChars (text : List Char) : Closed (escapeChars text) where
  noFeed := newline_notMem_escapeChars text
  noReturn := notMem_escapeChars rfl rfl text
  ordinary c member := by
    rw [unescaped_escapeChars] at member
    exact (List.mem_filter.mp member).2

/-- Escaping makes all its replacements at once, character by character. Whatever follows a
literal, it ends at its closing quote and stands for the text that it was written for. -/
theorem escape_delimited (text more : String) (further : List Char) :
    (escape text).toList = replaceInTurn replacements text.toList ∧
      escape (text ++ more) = escape text ++ escape more ∧ Closed (escape text).toList ∧
        read? ((escape text).toList ++ '\'' :: further) = some (text.toList, further) ∧
          literalLength? '\'' ((escape text).toList ++ '\'' :: further) =
            some ((escape text).toList.length + 1) := by
  have chars : (escape text).toList = escapeChars text.toList := String.toList_ofList
  refine ⟨?_, escape_append text more, ?_, ?_, ?_⟩
  · rw [chars, replaceInTurn_replacements]
  · rw [chars]
    exact closed_escapeChars text.toList
  · rw [chars, read?_escapeChars]
  · rw [chars, Enclosed.escapeChars]
    simp [literalLength?, Nat.add_comm]

end DartModels.Dart.StringLiteral
