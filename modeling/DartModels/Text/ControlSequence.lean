/-
Control sequences of terminals: an escape character, a bracket, parameters, intermediates and a
final character, each kind from its own range of ASCII characters.
-/

namespace DartModels.Text

def isParameter (c : Char) : Bool := '0' ≤ c && c ≤ '?'

def isIntermediate (c : Char) : Bool := ' ' ≤ c && c ≤ '/'

def isFinal (c : Char) : Bool := '@' ≤ c && c ≤ '~'

/-- The length of intermediates and the final character after them. -/
def intermediateLength? : List Char → Option Nat
  | [] => none
  | c :: rest =>
      if isIntermediate c then (intermediateLength? rest).map (· + 1)
      else if isFinal c then some 1
      else none

/-- The length of what follows the bracket. -/
def parameterLength? : List Char → Option Nat
  | [] => none
  | c :: rest =>
      if isParameter c then (parameterLength? rest).map (· + 1)
      else intermediateLength? (c :: rest)

/-- The length of the control sequence that a text begins with. -/
def sequenceLength? : List Char → Option Nat
  | '\x1b' :: '[' :: rest => (parameterLength? rest).map (· + 2)
  | _ => none

/-- Leaves out every control sequence, once the first characters are passed over. -/
def dropSequences : (passed : Nat) → List Char → List Char
  | _, [] => []
  | passed + 1, _ :: rest => dropSequences passed rest
  | 0, c :: rest =>
      match sequenceLength? (c :: rest) with
      | some length => dropSequences (length - 1) rest
      | none => c :: dropSequences 0 rest

/-- A text as it is shown where there is no terminal. -/
def withoutSequences (text : String) : String :=
  String.ofList (dropSequences 0 text.toList)

/-- Characters that begin no control sequence are kept, whatever follows them. -/
theorem dropSequences_append (text rest : List Char) (free : '\x1b' ∉ text) :
    dropSequences 0 (text ++ rest) = text ++ dropSequences 0 rest := by
  induction text with
  | nil => rfl
  | cons c text inductionHypothesis =>
      have different : c ≠ '\x1b' := fun same => free (by simp [same])
      have unchanged := inductionHypothesis fun member => free (List.mem_cons_of_mem c member)
      have noSequence : sequenceLength? (c :: (text ++ rest)) = none := by
        unfold sequenceLength?
        split
        · simp_all
        · rfl
      rw [List.cons_append, dropSequences, noSequence]
      dsimp only
      rw [unchanged, List.cons_append]

theorem dropSequences_free (text : List Char) (free : '\x1b' ∉ text) :
    dropSequences 0 text = text := by
  have unchanged := dropSequences_append text [] free
  rw [List.append_nil] at unchanged
  rw [unchanged, dropSequences, List.append_nil]

/-- A text without escape characters stays as it is. -/
theorem withoutSequences_free (text : String) (free : '\x1b' ∉ text.toList) :
    withoutSequences text = text := by
  simp [withoutSequences, dropSequences_free _ free]

end DartModels.Text
