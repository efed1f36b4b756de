import DartModels.Dart.Source
import DartModels.Proofs.Name.JoinedWords
import DartModels.Proofs.Schema.Walk
import DartModels.Proofs.Text.Trimming

/-
The class name for a name that a user gives, and how the root class, the file and its part files
are called after it.
-/

namespace DartModels.Name

open DartModels.Text

/-! When there is a class name -/

theorem letters_trimStart (text : List Char) : letters (trimStart text) = letters text := by
  induction text with
  | nil => rfl
  | cons c rest ih =>
      rw [trimStart, List.dropWhile_cons]
      split
      next blank =>
        rw [letters_cons, isAlphanum_of_isBlank blank, if_neg Bool.false_ne_true]
        exact ih
      next => rfl

theorem letters_trimmed (text : String) : letters (trimmed text).toList = letters text.toList := by
  rw [trimmed, String.toList_ofList, trim, letters_reverse, letters_trimStart, letters_reverse,
    letters_trimStart, List.reverse_reverse]

theorem pascal_isEmpty_iff {text : String} :
    (pascal text).isEmpty = true ↔ letters text.toList = [] := by
  rw [String.isEmpty_iff, ← String.toList_eq_nil_iff, pascal, String.toList_ofList,
    pascalChars_eq_nil_iff]

theorem className_eq_missing_iff {entitySuffix : Bool} {given : String} :
    className entitySuffix given = .error .missing ↔ (trimmed given).isEmpty = true := by
  unfold className
  dsimp only
  split
  next empty => simp [empty]
  next filled =>
    generalize pascal _ = name
    split <;> simp [filled]

/-- The entity suffix has letters of its own. -/
theorem letters_withEntitySuffix_ne_nil {name : String} (filled : name.isEmpty = false) :
    letters (withEntitySuffix name).toList ≠ [] := by
  intro none
  have ends := entity_suffix_withEntitySuffix filled
  rw [none] at ends
  exact absurd ends (by decide)

theorem className_eq_invalid_iff {entitySuffix : Bool} {given : String} :
    className entitySuffix given = .error .invalid ↔
      (trimmed given).isEmpty = false ∧ entitySuffix = false ∧
        given.toList.any Char.isAlphanum = false := by
  rw [← letters_eq_nil_iff, ← letters_trimmed]
  unfold className
  dsimp only
  cases filled : (trimmed given).isEmpty with
  | true => simp
  | false =>
      rw [if_neg Bool.false_ne_true]
      cases entitySuffix with
      | true =>
          have named : (pascal (withEntitySuffix (trimmed given))).isEmpty = false :=
            Bool.eq_false_iff.mpr fun empty =>
              letters_withEntitySuffix_ne_nil filled (pascal_isEmpty_iff.mp empty)
          rw [if_pos rfl, named, if_neg Bool.false_ne_true]
          simp
      | false =>
          rw [if_neg Bool.false_ne_true, ← pascal_isEmpty_iff]
          split
          next empty => simp [empty]
          next named => simp [named]

/-! What a class name is like -/

theorem spells_className {entitySuffix : Bool} {given name : String}
    (named : className entitySuffix given = .ok name) :
    Grammar.className.spells name.toList = true := by
  unfold className at named
  dsimp only at named
  split at named
  · cases named
  generalize (if entitySuffix then _ else _ : String) = text at named
  split at named
  · cases named
  next filled =>
    obtain rfl := Except.ok.inj named
    rw [pascal, String.toList_ofList]
    refine (pascalChars_eq_nil_or_spells text.toList).resolve_left fun empty => filled ?_
    rw [pascal, empty]
    rfl

theorem pascal_of_spells {name : String} (spelled : Grammar.className.spells name.toList = true) :
    pascal name = name := by
  rw [pascal, pascalChars_of_spells spelled, String.ofList_toList]

/-- A name that is spelled like a class name is made of letters and digits. -/
theorem all_isAlphanum_of_spells {name : List Char}
    (spelled : Grammar.className.spells name = true) : name.all Char.isAlphanum = true := by
  cases name with
  | nil => rfl
  | cons c rest =>
      rw [Grammar.spells, Bool.and_eq_true] at spelled
      have upper : c.isUpper = true := spelled.1
      rw [List.all_cons, isAlphanum_of_isUpper_or_isDigit (.inl upper), Bool.true_and]
      exact spelled.2

theorem entity_suffix_className {given name : String} (named : className true given = .ok name) :
    "entity".toList <:+ name.toList.map Char.toLower := by
  have whole : letters name.toList = name.toList.map Char.toLower := by
    rw [letters, List.filter_eq_self.mpr
      (List.all_eq_true.mp (all_isAlphanum_of_spells (spells_className named)))]
  obtain ⟨filled, own⟩ := className_eq_ok named
  rw [if_pos rfl] at own
  have ends := entity_suffix_withEntitySuffix filled
  generalize withEntitySuffix (trimmed given) = full at ends own
  have kept : letters full.toList <:+ letters name.toList := by
    rw [own, pascal, String.toList_ofList]
    exact letters_suffix_pascalChars full.toList
  rw [← whole]
  exact ends.trans kept

/-! What a file is called -/

/-- A class has the stem of its own name, not the one that stands in for an empty stem. -/
theorem fileStem_of_spells {name : String} (spelled : Grammar.className.spells name.toList = true) :
    fileStem name = snake name ∧ IsStem (fileStem name).toList := by
  have isStem : IsStem (snake name).toList := by
    rw [snake, String.toList_ofList]
    exact isStem_snakeChars spelled
  have filled : ¬(snake name).isEmpty = true := fun empty =>
    isStem.ne_nil (String.toList_eq_nil_iff.mpr (String.isEmpty_iff.mp empty))
  have own : fileStem name = snake name := by
    rw [fileStem]
    exact if_neg filled
  exact ⟨own, own ▸ isStem⟩

theorem all_fileName (name : String) :
    (fileName name).toList.all (fun c => isIdentifierChar c || c == '.') = true := by
  rw [fileName, String.toList_append, List.all_append, Bool.and_eq_true]
  refine ⟨?_, by decide⟩
  rw [List.all_eq_true]
  intro c member
  rw [List.all_eq_true.mp (isIdentifierChar_fileStem name) c member, Bool.true_or]

end DartModels.Name

namespace DartModels.Dart

open DartModels.Document
open DartModels.Name
open DartModels.Options
open DartModels.Schema
open DartModels.Text

/-! Part directives -/

def isPartDirective (line : String) : Bool := "part ".toList.isPrefixOf line.toList

/-- The part directives of a model file, in their order. -/
def partDirectives (file : ModelFile) : List String := (sourceLines file).filter isPartDirective

theorem isPartDirective_of_head?_ne {line : String} (other : line.toList.head? ≠ some 'p') :
    isPartDirective line = false := by
  rw [isPartDirective]
  cases chars : line.toList with
  | nil => rfl
  | cons c rest =>
      rw [chars, List.head?_cons, ne_eq, Option.some_inj] at other
      change ('p' == c && _) = false
      rw [beq_eq_false_iff_ne.mpr (Ne.symm other), Bool.false_and]

/-- What a line begins with decides. -/
theorem isPartDirective_append {front rest : String} (filled : front.toList ≠ [])
    (other : front.toList.head? ≠ some 'p') : isPartDirective (front ++ rest) = false := by
  apply isPartDirective_of_head?_ne
  rwa [String.toList_append, List.head?_append_of_ne_nil _ filled]

theorem isPartDirective_of_mem_fieldLines {field : Field} {line : String}
    (member : line ∈ fieldLines field) : isPartDirective line = false := by
  simp only [fieldLines, List.mem_append, List.mem_singleton] at member
  rcases member with ((inside | inside) | inside) | rfl
  · rw [keyLine] at inside
    split at inside
    · rw [List.mem_singleton.mp inside, String.append_assoc]
      exact isPartDirective_append (by decide) (by decide)
    · cases inside
  · rw [converterLine] at inside
    split at inside
    · rw [List.mem_singleton.mp inside, String.append_assoc]
      exact isPartDirective_append (by decide) (by decide)
    · cases inside
  · rw [defaultLine] at inside
    split at inside
    · rw [List.mem_singleton.mp inside, String.append_assoc]
      exact isPartDirective_append (by decide) (by decide)
    · cases inside
  · rw [parameterLine, String.append_assoc, String.append_assoc, String.append_assoc,
      String.append_assoc]
    exact isPartDirective_append (by decide) (by decide)

/-- The lines of a class are indented or begin with other words. -/
theorem isPartDirective_of_mem_modelLines {model : Model} {line : String}
    (member : line ∈ modelLines model) : isPartDirective line = false := by
  simp only [modelLines, List.mem_append, List.mem_cons, List.not_mem_nil, or_false] at member
  rcases member with ((rfl | rfl | rfl) | inside) | (rfl | rfl | rfl | rfl)
  · decide
  · rw [String.append_assoc, String.append_assoc, String.append_assoc]
    exact isPartDirective_append (by decide) (by decide)
  · rw [String.append_assoc]
    exact isPartDirective_append (by decide) (by decide)
  · obtain ⟨field, _, own⟩ := List.mem_flatMap.mp inside
    exact isPartDirective_of_mem_fieldLines own
  · rw [String.append_assoc]
    exact isPartDirective_append (by decide) (by decide)
  · decide
  · rw [String.append_assoc, String.append_assoc, String.append_assoc]
    exact isPartDirective_append (by decide) (by decide)
  · decide

theorem isPartDirective_part (rest : String) : isPartDirective ("part '" ++ rest) = true := by
  rw [isPartDirective, List.isPrefixOf_iff_prefix, String.toList_append]
  exact ⟨'\'' :: rest.toList, rfl⟩

/-- A file names two part files, and both have its own stem. -/
theorem partDirectives_eq (file : ModelFile) :
    partDirectives file =
      ["part '" ++ fileStem file.rootName ++ ".freezed.dart';",
        "part '" ++ fileStem file.rootName ++ ".g.dart';"] := by
  have classes : (file.models.flatMap fun model => "" :: modelLines model).filter
      isPartDirective = [] := by
    rw [List.filter_eq_nil_iff]
    intro line member
    obtain ⟨model, _, own⟩ := List.mem_flatMap.mp member
    rcases List.mem_cons.mp own with rfl | inside
    · decide
    · rw [isPartDirective_of_mem_modelLines inside]
      exact Bool.false_ne_true
  have imported (path : String) : isPartDirective ("import '" ++ path ++ "';") = false := by
    rw [String.append_assoc]
    exact isPartDirective_append (by decide) (by decide)
  have part (stem kind : String) : isPartDirective ("part '" ++ stem ++ kind) = true := by
    rw [String.append_assoc]
    exact isPartDirective_part _
  have blank : isPartDirective "" = false := rfl
  rw [partDirectives, sourceLines, List.filter_append, classes, List.append_nil, directives]
  simp [imported, part, blank]

/-! The root class -/

/-- The first name of a registry is the base itself. -/
theorem unique_empty (base : String) : (Registry.empty.unique base).1 = base := rfl

theorem FileWalk.head?_name {config : Config} {overrides : List Override}
    {rootName converterImport : String} {root : Node} {file : ModelFile}
    (walk : FileWalk config overrides rootName converterImport root file) :
    file.rootName = rootName ∧
      (file.models.map Model.name).head? = some (classBase .root rootName) := by
  cases walk with
  | root limited within named inside =>
      have own := congrArg Prod.fst named
      rw [unique_empty] at own
      exact ⟨rfl, by rw [List.map_cons, List.head?_cons, own]⟩

/-! The whole chain -/

/-- What a class name is like and what is called after it. -/
structure NameChain (entitySuffix : Bool) (name : String) : Prop where
  spelled : Grammar.className.spells name.toList = true
  settled : pascal name = name
  suffixed : entitySuffix = true → "entity".toList <:+ name.toList.map Char.toLower
  stem : fileStem name = snake name ∧ IsStem (fileStem name).toList
  file : fileName name = fileStem name ++ ".dart" ∧
    ∀ separator ∈ ['/', '\\'], separator ∉ (fileName name).toList
  /-- Whatever is inferred under the name, its root class has the name, or the name and a suffix,
  and its part files have the stem. -/
  models : ∀ (sample : Sample) (config : Config) (overrides : List Override)
    (converterImport : String) (file : ModelFile),
    (sample.modelFile config overrides name converterImport).result = .ok file →
      (file.models.map Model.name).head? =
          some (if name ∈ disallowedClassNames then name ++ "Model" else name) ∧
        partDirectives file =
          ["part '" ++ fileStem name ++ ".freezed.dart';",
            "part '" ++ fileStem name ++ ".g.dart';"]

/-- A class name in its own casing is safe as it is, or with a suffix. -/
theorem classBase_root {name : String} (spelled : Grammar.className.spells name.toList = true) :
    classBase .root name = if name ∈ disallowedClassNames then name ++ "Model" else name := by
  have filled : ¬name.isEmpty = true := by
    intro empty
    rw [String.isEmpty_iff.mp empty] at spelled
    cases spelled
  rw [classBase, pascal_of_spells spelled]
  simp only [filled, safeClassName, List.contains_iff_mem, Place.suffix]
  rfl

/-- There is a class name unless nothing is given, or nothing but separators and no suffix; it
stays the same from the root class to the part files. -/
theorem className_chain (entitySuffix : Bool) (given : String) :
    (className entitySuffix given = .error .missing ↔ (trimmed given).isEmpty = true) ∧
      (className entitySuffix given = .error .invalid ↔
        (trimmed given).isEmpty = false ∧ entitySuffix = false ∧
          given.toList.any Char.isAlphanum = false) ∧
      ∀ name, className entitySuffix given = .ok name → NameChain entitySuffix name := by
  refine ⟨className_eq_missing_iff, className_eq_invalid_iff, fun name named => ?_⟩
  have spelled := spells_className named
  refine
    { spelled
      settled := pascal_of_spells spelled
      suffixed := ?_
      stem := fileStem_of_spells spelled
      file := ⟨rfl, ?_⟩
      models := ?_ }
  · rintro rfl
    exact entity_suffix_className named
  · intro separator member inside
    have own := List.all_eq_true.mp (all_fileName name) separator inside
    simp only [List.mem_cons, List.not_mem_nil, or_false] at member
    rcases member with rfl | rfl
    · cases own
    · cases own
  · intro sample config overrides converterImport file generated
    obtain ⟨members, _, inferred⟩ := modelFile_eq_ok generated
    obtain ⟨own, first⟩ := FileWalk.head?_name (.of_infer inferred)
    rw [first, classBase_root spelled, partDirectives_eq, own]
    exact ⟨rfl, rfl⟩

/-- A name that would hide a core type. -/
theorem className_chain_list :
    className false " List" = .ok "List" ∧
      ∃ file, ((Sample.classified (.object [])).modelFile Config.standard [] "List"
          "converters.dart").result = .ok file ∧
        (file.models.map Model.name).head? = some "ListModel" ∧
        partDirectives file = ["part 'list.freezed.dart';", "part 'list.g.dart';"] ∧
        fileName "List" = "list.dart" := by
  have named : className false " List" = .ok "List" := by decide
  have chain := (className_chain false " List").2.2 "List" named
  have stem : fileStem "List" = "list" := by decide
  have generated : ((Sample.classified (.object [])).modelFile Config.standard [] "List"
      "converters.dart").result =
        .ok ⟨"List", "converters.dart", [⟨"ListModel", "List", []⟩]⟩ := rfl
  obtain ⟨first, parts⟩ := chain.models _ _ _ _ _ generated
  refine ⟨named, _, generated, first, ?_, chain.file.1⟩
  rw [parts, stem]
  rfl

end DartModels.Dart
