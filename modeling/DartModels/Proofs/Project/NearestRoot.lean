import DartModels.Proofs.Project.Flutter
import DartModels.Text.Parts

/-
The root of a project is the nearest directory with a pubspec file, and the search for it fails at
a way that is too long and at nothing else.
-/

namespace DartModels.Project

open DartModels.Project.Tree
open DartModels.Text

/-! Ways that are too long -/

namespace Tree

/-- The text of the way is too long, or so is a name on it that comes after a directory which is
there. -/
inductive Overlong (tree : Tree) (location : Location) : Prop
  | whole (long : maxLocationSize < location.text.utf8ByteSize)
  | name {above below : Location} {name : String} (split : location = above ++ name :: below)
      (isDirectory : tree.isDirectory above = true) (long : maxNameSize < name.utf8ByteSize)

variable {tree : Tree} {location here : Location}

theorem goOn_of_not_isDirectory (blocked : tree.isDirectory here = false) (name : String) :
    ∃ kind, tree.goOn here name = .error kind ∧ kind ≠ .nameTooLong := by
  unfold goOn
  split
  · exact ⟨.notDirectory, rfl, by decide⟩
  next noFile =>
    split
    · exact ⟨.notFound, rfl, by decide⟩
    next found =>
      rw [Bool.not_eq_true] at noFile
      rw [Bool.not_eq_true, Bool.not_eq_false'] at found
      rw [isDirectory_of_not_isFile noFile found] at blocked
      cases blocked

/-- A walk finds a name too long only in a directory that it has come to. -/
theorem foldlM_goOn_eq_nameTooLong (settled : ".." ∉ location) :
    location.foldlM tree.goOn here = .error .nameTooLong ↔
      ∃ above name below, location = above ++ name :: below ∧
        tree.isDirectory (here ++ above) = true ∧ maxNameSize < name.utf8ByteSize := by
  induction location generalizing here with
  | nil =>
      simp only [List.foldlM_nil, List.nil_eq, List.append_eq_nil_iff, reduceCtorEq, and_false,
        false_and, exists_false, iff_false]
      intro same
      cases same
  | cons first rest ih =>
      rw [List.mem_cons, not_or] at settled
      rw [List.foldlM_cons]
      cases isDirectory : tree.isDirectory here with
      | false =>
          obtain ⟨kind, blocked, other⟩ := goOn_of_not_isDirectory isDirectory first
          rw [blocked]
          constructor
          · intro same
            exact absurd (Except.error.inj same) other
          · rintro ⟨above, name, below, -, below_, -⟩
            rw [isDirectory_of_append below_] at isDirectory
            cases isDirectory
      | true =>
          rw [goOn_of_isDirectory isDirectory, if_neg (Ne.symm settled.1)]
          by_cases long : maxNameSize < first.utf8ByteSize
          · rw [if_pos long]
            refine ⟨fun _ => ⟨[], first, rest, rfl, ?_, long⟩, fun _ => rfl⟩
            rwa [List.append_nil]
          · rw [if_neg long]
            refine Iff.trans (ih settled.2) ⟨?_, ?_⟩
            · rintro ⟨above, name, below, rfl, reached, longer⟩
              rw [← List.append_cons] at reached
              exact ⟨first :: above, name, below, rfl, reached, longer⟩
            · rintro ⟨above, name, below, split, reached, longer⟩
              cases above with
              | nil =>
                  cases split
                  exact absurd longer long
              | cons other above =>
                  cases split
                  rw [List.append_cons] at reached
                  exact ⟨above, name, below, rfl, reached, longer⟩

theorem place_eq_nameTooLong (settled : ".." ∉ location) (zeroFree : location.hasZero = false) :
    tree.place location = .error .nameTooLong ↔ tree.Overlong location := by
  rw [place, Location.checkText, zeroFree, if_neg Bool.false_ne_true]
  by_cases long : maxLocationSize < location.text.utf8ByteSize
  · rw [if_pos long]
    exact ⟨fun _ => .whole long, fun _ => rfl⟩
  · rw [if_neg long]
    refine Iff.trans (foldlM_goOn_eq_nameTooLong settled) ⟨?_, ?_⟩
    · rintro ⟨above, name, below, split, isDirectory, longer⟩
      exact .name split isDirectory longer
    · rintro (whole | ⟨split, isDirectory, longer⟩)
      · exact absurd whole long
      · exact ⟨_, _, _, split, isDirectory, longer⟩

/-- Looking for a file fails at a way that is too long. -/
theorem leadsToFile_of_overlong (settled : ".." ∉ location) (zeroFree : location.hasZero = false)
    (long : tree.Overlong location) :
    tree.leadsToFile location = .error ⟨.nameTooLong, location⟩ := by
  rw [leadsToFile, find?, (place_eq_nameTooLong settled zeroFree).mpr long]
  rfl

theorem place_of_leadsToFile {error : FileError}
    (failed : tree.leadsToFile location = .error error) :
    tree.place location = .error .nameTooLong := by
  cases searched : tree.find? location with
  | ok found? =>
      rw [leadsToFile, searched] at failed
      cases found? with
      | none => cases failed
      | some found => cases found <;> cases failed
  | error cause =>
      unfold find? at searched
      split at searched
      · cases searched
      next blocked => exact blocked
      · cases searched

/-- At any other way it tells whether a file is there. -/
theorem leadsToFile_of_fits (settled : ".." ∉ location) (zeroFree : location.hasZero = false)
    (fits : ¬ tree.Overlong location) :
    tree.leadsToFile location = .ok (tree.isFile location) := by
  have textual : location.checkText = .ok () := by
    rw [Location.checkText, zeroFree, if_neg Bool.false_ne_true,
      if_neg fun long => fits (.whole long)]
  cases answered : tree.leadsToFile location with
  | ok found =>
      have isFile : tree.isFile location = (tree.fileAt? location).isSome := by
        rw [Bool.eq_iff_iff, isFile_iff, Option.isSome_iff_exists]
      rw [leadsToFile_eq_ok settled textual answered, isFile]
  | error error =>
      exact absurd ((place_eq_nameTooLong settled zeroFree).mp (place_of_leadsToFile answered)) fits

end Tree

namespace Location

variable {directory location : Location}

/-- A slash stands before every name. -/
theorem text_eq (filled : location ≠ []) :
    location.text = String.ofList (location.flatMap fun name => '/' :: name.toList) := by
  cases location with
  | nil => exact absurd rfl filled
  | cons name rest =>
      rw [← String.toList_inj, text, joined, List.map_cons, joinWith_cons, List.flatMap_map,
        String.toList_append, String.toList_ofList, String.toList_ofList, String.toList_ofList]
      rfl

/-- The way to a name is no longer than the way to it from further down. -/
theorem size_text_le (above : directory <+: location) (name : String) :
    (text (directory ++ [name])).utf8ByteSize ≤ (text (location ++ [name])).utf8ByteSize := by
  obtain ⟨rest, rfl⟩ := above
  rw [text_eq (by simp), text_eq (by simp)]
  simp only [List.flatMap_append, String.ofList_append, String.utf8ByteSize_append]
  omega

theorem selfAndAbove_eq_cons (location : Location) :
    ∃ further, location.selfAndAbove = location :: further := by
  induction location with
  | nil => exact ⟨[], rfl⟩
  | cons name rest ih =>
      obtain ⟨further, same⟩ := ih
      exact ⟨further.map (name :: ·) ++ [[]], by rw [selfAndAbove, same]; rfl⟩

/-- The nearer directories come first. -/
theorem pairwise_selfAndAbove (location : Location) :
    location.selfAndAbove.Pairwise fun near far => far <+: near := by
  induction location with
  | nil => exact List.pairwise_singleton _ _
  | cons name rest ih =>
      rw [selfAndAbove, List.pairwise_append, List.pairwise_map]
      refine ⟨?_, List.pairwise_singleton _ _, ?_⟩
      · exact ih.imp fun below => List.cons_prefix_cons.mpr ⟨rfl, below⟩
      · intro near _ far member
        rw [List.mem_singleton.mp member]
        exact List.nil_prefix

theorem hasZero_append (location other : Location) :
    hasZero (location ++ other) = (hasZero location || hasZero other) := List.any_append

end Location

namespace Tree

variable {tree : Tree} {location directory : Location} {name : String}

/-- A way is too long when it goes on from one that is. -/
theorem Overlong.append (long : tree.Overlong location) (name : String) :
    tree.Overlong (location ++ [name]) := by
  cases long with
  | whole long =>
      refine .whole (Nat.lt_of_lt_of_le long ?_)
      cases location with
      | nil => exact absurd long (by decide)
      | cons first rest =>
          rw [Location.text_eq (List.cons_ne_nil first rest), Location.text_eq (by simp),
            List.flatMap_append, String.ofList_append, String.utf8ByteSize_append]
          exact Nat.le_add_right _ _
  | @name above below own split isDirectory long =>
      have further : location ++ [name] = above ++ own :: (below ++ [name]) := by
        rw [split, List.append_assoc, List.cons_append]
      exact .name further isDirectory long

theorem Overlong.deeper (short : name.utf8ByteSize ≤ maxNameSize) (above : directory <+: location)
    (long : tree.Overlong (directory ++ [name])) : tree.Overlong (location ++ [name]) := by
  cases long with
  | whole long => exact .whole (Nat.lt_of_lt_of_le long (Location.size_text_le above name))
  | @name before below own split isDirectory long =>
      obtain ⟨rest, rfl⟩ := above
      rcases below.eq_nil_or_concat with bottom | ⟨middle, last, deeper⟩
      · subst bottom
        obtain ⟨-, same⟩ := List.append_inj' split rfl
        cases same
        exact absurd short (Nat.not_le.mpr long)
      · have parts : directory ++ [name] = (before ++ own :: middle) ++ [last] := by
          rw [split, deeper]
          simp
        obtain ⟨same, -⟩ := List.append_inj' parts rfl
        have further : directory ++ rest ++ [name] =
            before ++ own :: (middle ++ rest ++ [name]) := by
          rw [same]
          simp
        exact .name further isDirectory long

end Tree

/-! The search -/

/-- The nearest directory, the start included, that has a pubspec file. -/
structure IsNearestRoot (tree : Tree) (start root : Location) : Prop where
  above : root <+: start
  holds : tree.isFile (root ++ [pubspecName]) = true
  nearest : ∀ directory, directory <+: start →
    tree.isFile (directory ++ [pubspecName]) = true → directory <+: root

section Search

variable {tree : Tree} {start root other : Location}

theorem IsNearestRoot.unique (first : IsNearestRoot tree start root)
    (second : IsNearestRoot tree start other) : root = other := by
  have above := second.nearest root first.above first.holds
  have below := first.nearest other second.above second.holds
  exact above.eq_of_length_le below.length_le

/-- The first directory that is found on the way up is the nearest one. -/
theorem isNearestRoot_of_find?
    (found : (start.selfAndAbove.find? fun directory => tree.isFile (directory ++ [pubspecName])) =
      some root) : IsNearestRoot tree start root := by
  obtain ⟨holds, nearer, further, split, missed⟩ := List.find?_eq_some_iff_append.mp found
  have ordered := start.pairwise_selfAndAbove
  rw [split, List.pairwise_append, List.pairwise_cons] at ordered
  refine ⟨?_, holds, fun directory above held => ?_⟩
  · rw [← mem_selfAndAbove, split]
    exact List.mem_append_right _ List.mem_cons_self
  · rw [← mem_selfAndAbove, split, List.mem_append, List.mem_cons] at above
    rcases above with before | rfl | after
    · have missing := missed directory before
      rw [held] at missing
      cases missing
    · exact List.prefix_rfl
    · exact ordered.2.1.1 directory after

theorem find?_eq_some_iff_isNearestRoot :
    (start.selfAndAbove.find? fun directory => tree.isFile (directory ++ [pubspecName])) =
      some root ↔ IsNearestRoot tree start root := by
  refine ⟨isNearestRoot_of_find?, fun nearest => ?_⟩
  cases found :
      start.selfAndAbove.find? fun directory => tree.isFile (directory ++ [pubspecName]) with
  | none =>
      have missing := List.find?_eq_none.mp found root (mem_selfAndAbove.mpr nearest.above)
      exact absurd nearest.holds missing
  | some other => rw [(isNearestRoot_of_find? found).unique nearest]

theorem findM?_of_ok {Item Failure : Type} {check : Item → Except Failure Bool}
    {accepts : Item → Bool} {items : List Item}
    (checked : ∀ item ∈ items, check item = .ok (accepts item)) :
    items.findM? check = .ok (items.find? accepts) := by
  induction items with
  | nil => rfl
  | cons first rest ih =>
      obtain ⟨own, others⟩ := List.forall_mem_cons.mp checked
      rw [List.findM?, own, List.find?_cons]
      cases accepts first with
      | true => rfl
      | false => exact ih others

variable (settled : ".." ∉ start) (zeroFree : start.hasZero = false)
include settled zeroFree

/-- At and above a resolved directory, the way to a pubspec file is a resolved one. -/
theorem resolved_pubspec {directory : Location} (above : directory <+: start) :
    ".." ∉ directory ++ [pubspecName] ∧ Location.hasZero (directory ++ [pubspecName]) = false := by
  obtain ⟨rest, rfl⟩ := above
  rw [Location.hasZero_append, Bool.or_eq_false_iff] at zeroFree
  refine ⟨?_, ?_⟩
  · rw [List.mem_append, not_or]
    exact ⟨fun up => settled (List.mem_append_left rest up), by decide⟩
  · rw [Location.hasZero_append, zeroFree.1]
    decide

theorem holdsPubspec_of_fits {directory : Location} (above : directory <+: start)
    (fits : ¬ tree.Overlong (start ++ [pubspecName])) :
    holdsPubspec tree directory = .ok (tree.isFile (directory ++ [pubspecName])) := by
  obtain ⟨plain, free⟩ := resolved_pubspec settled zeroFree above
  exact leadsToFile_of_fits plain free fun long => fits (long.deeper (by decide) above)

theorem searchStart_of_fits (noFile : tree.isFile start = false)
    (fits : ¬ tree.Overlong start) : searchStart tree start = .ok start := by
  rw [searchStart, leadsToFile_of_fits settled zeroFree fits, noFile]
  rfl

/-- Without a way that is too long, the search finds the first directory with a pubspec file. -/
theorem projectRoot?_of_fits (noFile : tree.isFile start = false)
    (fits : ¬ tree.Overlong (start ++ [pubspecName])) :
    projectRoot? tree start =
      .ok (start.selfAndAbove.find? fun directory => tree.isFile (directory ++ [pubspecName])) := by
  have begun := searchStart_of_fits settled zeroFree noFile fun long => fits (long.append _)
  rw [projectRoot?, begun]
  exact findM?_of_ok fun directory member =>
    holdsPubspec_of_fits settled zeroFree (mem_selfAndAbove.mp member) fits

/-- The way to the nearest pubspec file that could be there is looked at first. -/
theorem projectRoot?_of_overlong (noFile : tree.isFile start = false)
    (long : tree.Overlong (start ++ [pubspecName])) :
    ∃ error, projectRoot? tree start = .error error := by
  by_cases already : tree.Overlong start
  · rw [projectRoot?, searchStart, leadsToFile_of_overlong settled zeroFree already]
    exact ⟨_, rfl⟩
  · obtain ⟨plain, free⟩ := resolved_pubspec settled zeroFree (List.prefix_refl start)
    obtain ⟨further, near⟩ := start.selfAndAbove_eq_cons
    have refused := leadsToFile_of_overlong plain free long
    rw [projectRoot?, searchStart_of_fits settled zeroFree noFile already]
    change ∃ error, start.selfAndAbove.findM? (holdsPubspec tree) = .error error
    rw [near, List.findM?, holdsPubspec, refused]
    exact ⟨_, rfl⟩

/-- How the search for a root ends: it is refused a way that is too long, or else it finds the
nearest directory with a pubspec file if there is any. -/
structure FindsNearest (tree : Tree) (start : Location) : Prop where
  refused : (∃ error, projectRoot? tree start = .error error) ↔
    tree.Overlong (start ++ [pubspecName])
  found : ∀ root, projectRoot? tree start = .ok (some root) ↔
    ¬ tree.Overlong (start ++ [pubspecName]) ∧ IsNearestRoot tree start root
  missing : projectRoot? tree start = .ok none ↔
    ¬ tree.Overlong (start ++ [pubspecName]) ∧
      ∀ directory, directory <+: start → tree.isFile (directory ++ [pubspecName]) = false

theorem findsNearest (noFile : tree.isFile start = false) : FindsNearest tree start := by
  by_cases long : tree.Overlong (start ++ [pubspecName])
  · obtain ⟨error, refused⟩ := projectRoot?_of_overlong settled zeroFree noFile long
    exact {
      refused := iff_of_true ⟨error, refused⟩ long
      found := fun root => by simp [refused, long]
      missing := by simp [refused, long] }
  · have searched := projectRoot?_of_fits settled zeroFree noFile long
    exact {
      refused := by simp [searched, long]
      found := fun root => by simp [searched, long, find?_eq_some_iff_isNearestRoot]
      missing := by simp [searched, long, mem_selfAndAbove] }

end Search

end DartModels.Project
