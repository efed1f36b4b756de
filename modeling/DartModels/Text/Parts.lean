/-
Texts in parts: lines that each end with a line feed, and parts with a mark between them.
-/

namespace DartModels.Text

/-- Every line ends with a line feed. -/
def unlines (lines : List String) : String :=
  String.ofList (lines.flatMap fun line => line.toList ++ ['\n'])

/-- Cuts a text at every mark; a text without any is one part. -/
def cutAt (mark : Char) : List Char → List (List Char)
  | [] => [[]]
  | c :: rest =>
      if c = mark then [] :: cutAt mark rest
      else
        match cutAt mark rest with
        | [] => [[c]]
        | part :: parts => (c :: part) :: parts

/-- Puts a mark between the parts. -/
def joinWith (mark : Char) : List (List Char) → List Char
  | [] => []
  | [part] => part
  | part :: next :: parts => part ++ mark :: joinWith mark (next :: parts)

theorem cutAt_append (mark : Char) (part text : List Char) (free : mark ∉ part) :
    cutAt mark (part ++ mark :: text) = part :: cutAt mark text := by
  induction part with
  | nil => simp [cutAt]
  | cons c part inductionHypothesis =>
      have different : c ≠ mark := fun same => free (by simp [same])
      have rest := inductionHypothesis fun member => free (List.mem_cons_of_mem c member)
      simp [cutAt, different, rest]

theorem cutAt_free (mark : Char) (part : List Char) (free : mark ∉ part) :
    cutAt mark part = [part] := by
  induction part with
  | nil => rfl
  | cons c part inductionHypothesis =>
      have different : c ≠ mark := fun same => free (by simp [same])
      have rest := inductionHypothesis fun member => free (List.mem_cons_of_mem c member)
      simp [cutAt, different, rest]

/-- Parts without marks are found again. -/
theorem cutAt_joinWith (mark : Char) (part : List Char) (parts : List (List Char))
    (free : ∀ p ∈ part :: parts, mark ∉ p) :
    cutAt mark (joinWith mark (part :: parts)) = part :: parts := by
  induction parts generalizing part with
  | nil => exact cutAt_free mark part (free part (by simp))
  | cons next parts inductionHypothesis =>
      have rest := inductionHypothesis next fun p member =>
        free p (List.mem_cons_of_mem part member)
      rw [joinWith, cutAt_append mark part _ (free part (by simp)), rest]

/-- A mark stands before every later part. -/
theorem joinWith_cons (mark : Char) (part : List Char) (parts : List (List Char)) :
    joinWith mark (part :: parts) = part ++ parts.flatMap (mark :: ·) := by
  induction parts generalizing part with
  | nil => rw [joinWith, List.flatMap_nil, List.append_nil]
  | cons next parts inductionHypothesis =>
      rw [joinWith, inductionHypothesis, List.flatMap_cons, List.cons_append]

theorem cutAt_ne_nil (mark : Char) (text : List Char) : cutAt mark text ≠ [] := by
  fun_cases cutAt mark text <;> exact List.cons_ne_nil _ _

/-- Joined again, the parts of a text are the text. -/
theorem joinWith_cutAt (mark : Char) (text : List Char) :
    joinWith mark (cutAt mark text) = text := by
  fun_induction cutAt mark text with
  | case1 => rfl
  | case2 rest inductionHypothesis =>
      obtain ⟨part, parts, cut⟩ := List.exists_cons_of_ne_nil (cutAt_ne_nil mark rest)
      rw [cut, joinWith, List.nil_append, ← cut, inductionHypothesis]
  | case3 c rest _ cut => exact absurd cut (cutAt_ne_nil mark rest)
  | case4 c rest _ part parts cut inductionHypothesis =>
      rw [cut] at inductionHypothesis
      rw [joinWith_cons, List.cons_append, ← joinWith_cons, inductionHypothesis]

theorem mem_joinWith {mark c : Char} {parts : List (List Char)} (member : c ∈ joinWith mark parts) :
    c = mark ∨ ∃ part ∈ parts, c ∈ part := by
  cases parts with
  | nil => cases member
  | cons part parts =>
      rw [joinWith_cons, List.mem_append, List.mem_flatMap] at member
      rcases member with inside | ⟨later, behind, inside⟩
      · exact .inr ⟨part, List.mem_cons_self, inside⟩
      · rcases List.mem_cons.mp inside with same | inside
        · exact .inl same
        · exact .inr ⟨later, List.mem_cons_of_mem part behind, inside⟩

theorem toList_unlines (lines : List String) :
    (unlines lines).toList = lines.flatMap fun line => line.toList ++ ['\n'] := by
  rw [unlines, String.toList_ofList]

theorem toList_unlines_cons (line : String) (rest : List String) :
    (unlines (line :: rest)).toList = line.toList ++ '\n' :: (unlines rest).toList := by
  rw [toList_unlines, toList_unlines, List.flatMap_cons, List.append_assoc, List.singleton_append]

theorem unlines_append (lines later : List String) :
    unlines (lines ++ later) = unlines lines ++ unlines later := by
  rw [unlines, List.flatMap_append, String.ofList_append]
  rfl

/-- Lines without line feeds are found again, with nothing after the last one. -/
theorem cutAt_unlines (lines : List String) (free : ∀ line ∈ lines, '\n' ∉ line.toList) :
    cutAt '\n' (unlines lines).toList = lines.map String.toList ++ [[]] := by
  rw [toList_unlines]
  induction lines with
  | nil => rfl
  | cons line rest inductionHypothesis =>
      have later := inductionHypothesis fun other member =>
        free other (List.mem_cons_of_mem line member)
      rw [List.flatMap_cons, List.append_assoc, List.singleton_append,
        cutAt_append '\n' line.toList _ (free line (by simp)), later, List.map_cons,
        List.cons_append]

end DartModels.Text
