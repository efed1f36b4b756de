import DartModels.Project.Location

/-
The relative path between two locations: joined to the directory it leads to the target, and no way
between the two climbs less.
-/

namespace DartModels.Project

open DartModels.Text

namespace Location

/-- A name on a resolved way has no slash in it and is neither empty nor one or two points. -/
structure IsName (name : String) : Prop where
  filled : name ≠ ""
  point : name ≠ "."
  points : name ≠ ".."
  slashless : '/' ∉ name.toList

instance (name : String) : Decidable (IsName name) :=
  decidable_of_iff (name ≠ "" ∧ name ≠ "." ∧ name ≠ ".." ∧ '/' ∉ name.toList)
    ⟨fun parts => ⟨parts.1, parts.2.1, parts.2.2.1, parts.2.2.2⟩,
      fun isName => ⟨isName.filled, isName.point, isName.points, isName.slashless⟩⟩

/-! Going along a way -/

theorem foldl_step_of_plain {way : List String} (plain : ".." ∉ way) (base : Location) :
    way.foldl step base = base ++ way := by
  induction way generalizing base with
  | nil => simp
  | cons name rest ih =>
      rw [List.mem_cons, not_or] at plain
      rw [List.foldl_cons, ih plain.2, step, if_neg (Ne.symm plain.1), List.append_assoc,
        List.singleton_append]

/-- Two points take the last name off, and at the root they change nothing. -/
theorem foldl_step_climb (base : Location) (count : Nat) :
    (List.replicate count "..").foldl step base = base.take (base.length - count) := by
  induction count generalizing base with
  | zero => simp
  | succ count ih =>
      rw [List.replicate_succ, List.foldl_cons, ih, step, if_pos rfl, parent, List.dropLast_eq_take,
        List.take_take, List.length_take]
      congr 1
      omega

theorem settled_append {base : Location} (plain : ".." ∉ base) (way : List String) :
    (base ++ way).settled = way.foldl step base := by
  rw [settled, List.foldl_append, foldl_step_of_plain plain, List.nil_append]

/-- Whatever a way does, it leaves alone what its climbs do not take off. -/
theorem exists_kept_prefix (way : List String) (base : Location) :
    ∃ kept, kept <+: base ∧ kept <+: way.foldl step base ∧
      base.length ≤ kept.length + way.count ".." := by
  induction way generalizing base with
  | nil => exact ⟨base, List.prefix_rfl, List.prefix_rfl, by simp⟩
  | cons name rest ih =>
      obtain ⟨kept, below, reached, long⟩ := ih (base.step name)
      rw [List.foldl_cons]
      by_cases up : name = ".."
      · subst up
        rw [step, if_pos rfl, parent] at below long
        refine ⟨kept, below.trans base.dropLast_prefix, reached, ?_⟩
        rw [List.length_dropLast] at long
        rw [List.count_cons_self]
        omega
      · rw [step, if_neg up] at below long
        rw [List.count_cons_of_ne up]
        rw [List.length_append, List.length_singleton] at long
        rcases List.prefix_concat_iff.mp below with rfl | inside
        · refine ⟨base, List.prefix_rfl, (List.prefix_append base [name]).trans reached, ?_⟩
          omega
        · exact ⟨kept, inside, reached, by omega⟩

/-! The parts of a relative path -/

/-- A way that climbs out of a directory to the deepest one that is above the target as well, and
goes down from there. -/
structure Direct (directory target common up down : Location) (way : List String) : Prop where
  start : directory = common ++ up
  goal : target = common ++ down
  deepest : ∀ shared, shared <+: directory → shared <+: target → shared <+: common
  names : way = List.replicate up.length ".." ++ down

/-- What begins both lists ends before the names that differ. -/
theorem prefix_of_apart {common up down shared : Location}
    (apart : ∀ here ∈ up.head?, here ∉ down.head?) (first : shared <+: common ++ up)
    (second : shared <+: common ++ down) : shared <+: common := by
  rcases List.prefix_or_prefix_of_prefix first (List.prefix_append common up) with inside | beyond
  · exact inside
  · obtain ⟨tail, rfl⟩ := beyond
    rw [List.prefix_append_right_inj] at first second
    cases tail with
    | nil => simp
    | cons name tail =>
        obtain ⟨_, rfl⟩ := first
        obtain ⟨_, rfl⟩ := second
        exact absurd rfl (apart name rfl)

theorem exists_direct (directory target : Location) :
    ∃ common up down, Direct directory target common up down (relativeParts directory target) := by
  suffices split : ∃ common up down, directory = common ++ up ∧ target = common ++ down ∧
      (∀ here ∈ up.head?, here ∉ down.head?) ∧
      relativeParts directory target = List.replicate up.length ".." ++ down by
    obtain ⟨common, up, down, start, goal, apart, names⟩ := split
    refine ⟨common, up, down, start, goal, fun shared first second => ?_, names⟩
    exact prefix_of_apart apart (start ▸ first) (goal ▸ second)
  fun_induction relativeParts directory target with
  | case1 directory name target ih =>
      obtain ⟨common, up, down, rfl, rfl, apart, names⟩ := ih
      exact ⟨name :: common, up, down, rfl, rfl, apart, names⟩
  | case2 here directory there target different =>
      refine ⟨[], here :: directory, there :: target, rfl, rfl, ?_, rfl⟩
      simpa [eq_comm] using different
  | case3 directory target short =>
      refine ⟨[], directory, target, rfl, rfl, ?_, rfl⟩
      cases directory with
      | nil => simp
      | cons here directory =>
          cases target with
          | nil => simp
          | cons there target => exact absurd rfl (short here directory there target rfl)

/-- What both ways begin with has no part in the path between them. -/
theorem relativeParts_append (common directory target : Location) :
    relativeParts (common ++ directory) (common ++ target) = relativeParts directory target := by
  induction common with
  | nil => rfl
  | cons name common ih => rw [List.cons_append, List.cons_append, relativeParts, if_pos rfl, ih]

theorem eq_or_mem_of_relativeParts {directory target : Location} {part : String}
    (member : part ∈ relativeParts directory target) : part = ".." ∨ part ∈ target := by
  obtain ⟨common, up, down, direct⟩ := exists_direct directory target
  rw [direct.names, List.mem_append] at member
  rcases member with above | below
  · exact .inl (List.mem_replicate.mp above).2
  · exact .inr (direct.goal ▸ List.mem_append_right common below)

theorem slash_notMem_relativeParts {directory target : Location}
    (slashless : ∀ name ∈ target, '/' ∉ name.toList) :
    ∀ part ∈ relativeParts directory target, '/' ∉ part.toList := by
  intro part member
  rcases eq_or_mem_of_relativeParts member with rfl | below
  · decide
  · exact slashless part below

namespace Direct

variable {directory target common up down : Location} {way : List String}

/-- The way leads from the directory to the target. -/
theorem settled (direct : Direct directory target common up down way) (plain : ".." ∉ directory)
    (plainToo : ".." ∉ target) : (directory ++ way).settled = target := by
  obtain ⟨rfl, rfl, -, rfl⟩ := direct
  rw [List.mem_append, not_or] at plainToo
  have climbed : (common ++ up).take ((common ++ up).length - up.length) = common := by simp
  rw [settled_append plain, List.foldl_append, foldl_step_climb, climbed,
    foldl_step_of_plain plainToo.2]

/-- Every other way climbs at least as often. -/
theorem length_le_count (direct : Direct directory target common up down way)
    (plain : ".." ∉ directory) {other : List String}
    (leads : (directory ++ other).settled = target) : up.length ≤ other.count ".." := by
  rw [settled_append plain] at leads
  obtain ⟨kept, below, reached, long⟩ := exists_kept_prefix other directory
  have shared := (direct.deepest kept below (leads ▸ reached)).length_le
  rw [direct.start, List.length_append] at long
  omega

end Direct

/-! The text of a relative path -/

/-- Cut at its slashes, a path falls into its names. -/
theorem cutAt_joined {names : List String} (filled : names ≠ [])
    (slashless : ∀ name ∈ names, '/' ∉ name.toList) :
    cutAt '/' (joined names).toList = names.map String.toList := by
  cases names with
  | nil => exact absurd rfl filled
  | cons name names =>
      have free : ∀ part ∈ name.toList :: names.map String.toList, '/' ∉ part := by
        simpa using slashless
      rw [joined, String.toList_ofList, List.map_cons, cutAt_joinWith _ _ _ free]

/-- The names in a path are found again when none of them leads nowhere. -/
theorem pathNames_joined {names : List String} (filled : names ≠ [])
    (plain : ∀ name ∈ names, (name != "" && name != ".") = true)
    (slashless : ∀ name ∈ names, '/' ∉ name.toList) : pathNames (joined names) = names := by
  have back : String.ofList ∘ String.toList = id := funext fun _ => String.ofList_toList
  rw [pathNames, cutAt_joined filled slashless, List.map_map, back, List.map_id,
    List.filter_eq_self.mpr plain]

theorem cutAt_point (path : String) :
    cutAt '/' ("./" ++ path).toList = ['.'] :: cutAt '/' path.toList := by
  rw [String.toList_append]
  exact cutAt_append '/' ['.'] path.toList (by decide)

/-- A point and a slash before a path lead nowhere. -/
theorem pathNames_point (path : String) : pathNames ("./" ++ path) = pathNames path := by
  rw [pathNames, cutAt_point, List.map_cons, List.filter_cons_of_neg (by decide), pathNames]

theorem head?_relativePath (directory target : Location) :
    (relativePath directory target).toList.head? = some '.' := by
  unfold relativePath
  split
  · rfl
  · dsimp only
    split
    next pointed => exact pointed
    next => rw [String.toList_append]; rfl

theorem pathNames_relativePath (directory : Location) {target : Location}
    (named : ∀ name ∈ target, IsName name) :
    pathNames (relativePath directory target) = relativeParts directory target := by
  unfold relativePath
  split
  next empty => rw [empty]; decide
  next parts filled =>
    have whole : pathNames (joined (relativeParts directory target)) =
        relativeParts directory target := by
      apply pathNames_joined filled
      · intro name member
        rcases eq_or_mem_of_relativeParts member with rfl | below
        · decide
        · simp [(named name below).filled, (named name below).point]
      · exact slash_notMem_relativeParts fun name member => (named name member).slashless
    dsimp only
    split
    · exact whole
    · rw [pathNames_point, whole]

theorem relativePath_append (common directory target : Location) :
    relativePath (common ++ directory) (common ++ target) = relativePath directory target := by
  rw [relativePath, relativeParts_append, relativePath]

/-- Between its slashes a relative path has points and names of the target. -/
theorem mem_cutAt_relativePath {directory target : Location} {part : List Char}
    (slashless : ∀ name ∈ target, '/' ∉ name.toList)
    (member : part ∈ cutAt '/' (relativePath directory target).toList) :
    String.ofList part ∈ "." :: ".." :: target := by
  have below (filled : relativeParts directory target ≠ [])
      (inside : part ∈ cutAt '/' (joined (relativeParts directory target)).toList) :
      String.ofList part ∈ ".." :: target := by
    rw [cutAt_joined filled (slash_notMem_relativeParts slashless)] at inside
    obtain ⟨name, named, rfl⟩ := List.mem_map.mp inside
    rw [String.ofList_toList]
    exact List.mem_cons.mpr (eq_or_mem_of_relativeParts named)
  unfold relativePath at member
  split at member
  · obtain rfl : part = ['.'] := by simpa [cutAt] using member
    exact List.mem_cons_self
  next filled =>
    dsimp only at member
    split at member
    · exact List.mem_cons_of_mem _ (below filled member)
    · rw [cutAt_point] at member
      rcases List.mem_cons.mp member with rfl | behind
      · exact List.mem_cons_self
      · exact List.mem_cons_of_mem _ (below filled behind)

/-- A relative path leads to its target when its names are the parts of the way. -/
theorem resolve_relativePath {directory target : Location} (plain : ".." ∉ directory)
    (plainToo : ".." ∉ target)
    (names : pathNames (relativePath directory target) = relativeParts directory target) :
    resolve directory (relativePath directory target) = target := by
  obtain ⟨common, up, down, direct⟩ := exists_direct directory target
  rw [resolve, follow, head?_relativePath, if_neg (by decide), names]
  exact direct.settled plain plainToo

/-- A relative path begins with a point and leads from the directory to the target. It climbs to
the deepest directory that is above both, once for each name, and then it goes down; no other way
climbs less. -/
theorem relativePath_direct (directory target : Location)
    (named : ∀ name ∈ directory ++ target, IsName name) :
    (relativePath directory target).toList.head? = some '.' ∧
      resolve directory (relativePath directory target) = target ∧
      ∃ common up down,
        Direct directory target common up down (pathNames (relativePath directory target)) ∧
          ".." ∉ down ∧
          ∀ way : List String, (directory ++ way).settled = target → up.length ≤ way.count ".." := by
  obtain ⟨inDirectory, inTarget⟩ := List.forall_mem_append.mp named
  have plain : ".." ∉ directory := fun up => (inDirectory _ up).points rfl
  have plainToo : ".." ∉ target := fun up => (inTarget _ up).points rfl
  have head := head?_relativePath directory target
  have names := pathNames_relativePath directory inTarget
  obtain ⟨common, up, down, direct⟩ := exists_direct directory target
  refine ⟨head, ?_, common, up, down, names ▸ direct, ?_, fun way => direct.length_le_count plain⟩
  · rw [resolve, follow, head, if_neg (by decide), names]
    exact direct.settled plain plainToo
  · intro inside
    exact plainToo (direct.goal ▸ List.mem_append_right common inside)

/-- Names that begin alike share no directory. -/
theorem relativePath_direct_alike :
    (∀ name ∈ ["lib", ".well", "a"] ++ ["lib", ".well-known", "b.dart"], IsName name) ∧
      relativePath ["lib", ".well", "a"] ["lib", ".well-known", "b.dart"] =
        "../../.well-known/b.dart" ∧
      resolve ["lib", ".well", "a"] "../../.well-known/b.dart" =
        ["lib", ".well-known", "b.dart"] := by
  have named : ∀ name ∈ ["lib", ".well", "a"] ++ ["lib", ".well-known", "b.dart"], IsName name := by
    decide
  have path : relativePath ["lib", ".well", "a"] ["lib", ".well-known", "b.dart"] =
      "../../.well-known/b.dart" := by decide
  have leads := (relativePath_direct _ _ named).2.1
  rw [path] at leads
  exact ⟨named, path, leads⟩

end Location

end DartModels.Project
