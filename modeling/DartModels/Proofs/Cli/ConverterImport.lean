import DartModels.Proofs.Cli.Course
import DartModels.Proofs.Cli.Request
import DartModels.Proofs.Dart.Escaping
import DartModels.Proofs.Project.NearestRoot
import DartModels.Proofs.Project.RelativePath
import DartModels.Proofs.Schema.Walk

/-
The import of the converter module in an output: its path leads to the module of the nearest
project, and no name that a user has chosen gets into it.
-/

namespace DartModels.Cli

open DartModels.Dart
open DartModels.Project
open DartModels.Schema
open DartModels.Text

/-! The path of the import -/

/-- What stands between the slashes of an import path: points, or names on the way from a project
root to its converter module. -/
def importNames : List String := [".", "..", "lib", "generate", "json_value_converter.dart"]

/-- The path of an import leads from a directory to the converter module of a root, and it is made
of nothing that would have to be escaped. -/
structure PlainImport (directory root : Location) (path : String) : Prop where
  names : ∀ part ∈ cutAt '/' path.toList, String.ofList part ∈ importNames
  unescaped : StringLiteral.escape path = path
  leads : Location.resolve directory path = converterLocation root

section Path

variable {directory root : Location}

/-- The names that both ways begin with cancel, and below the root the other way has only names of
the converter module. -/
theorem mem_importNames (above : root <+: directory) {part : List Char}
    (member : part ∈ cutAt '/' (Location.relativePath directory (converterLocation root)).toList) :
    String.ofList part ∈ importNames := by
  obtain ⟨rest, rfl⟩ := above
  rw [converterLocation, Location.relativePath_append] at member
  exact Location.mem_cutAt_relativePath (by decide) member

theorem isOrdinary_importNames :
    ∀ name ∈ importNames, name.toList.all StringLiteral.isOrdinary = true := by
  decide

/-- A path is as ordinary as the parts that it is made of. -/
theorem isOrdinary_of_importNames {path : String}
    (names : ∀ part ∈ cutAt '/' path.toList, String.ofList part ∈ importNames) :
    ∀ c ∈ path.toList, StringLiteral.isOrdinary c = true := by
  intro c member
  rw [← joinWith_cutAt '/' path.toList] at member
  rcases mem_joinWith member with rfl | ⟨part, inside, member⟩
  · rfl
  · have ordinary := isOrdinary_importNames _ (names part inside)
    rw [String.toList_ofList] at ordinary
    exact List.all_eq_true.mp ordinary c member

/-- From anywhere below a root, the relative path to its converter module is a plain import. -/
theorem plainImport_relativePath (above : root <+: directory) (settled : ".." ∉ directory) :
    PlainImport directory root
      (Location.relativePath directory (converterLocation root)) where
  names _ member := mem_importNames above member
  unescaped :=
    StringLiteral.escape_eq_self (isOrdinary_of_importNames fun _ => mem_importNames above)
  leads := by
    obtain ⟨rest, rfl⟩ := above
    have plain : ".." ∉ root := fun up => settled (List.mem_append_left rest up)
    apply Location.resolve_relativePath settled (settled_converterLocation plain)
    rw [converterLocation, Location.relativePath_append, Location.relativeParts_append]
    exact Location.pathNames_relativePath rest (by decide)

end Path

/-! The import of a run -/

section Run

variable {inputs : Inputs} {tree : Tree} {file : ModelFile}

theorem Prepared.importLine (preparation : Prepared inputs tree)
    (inferred : preparation.inference.result = .ok file) :
    (sourceLines file)[1]? =
      some ("import '" ++ Location.relativePath inputs.outputDirectory
        (converterLocation preparation.root) ++ "';") := by
  obtain ⟨members, rooted, inferred⟩ := modelFile_eq_ok inferred
  cases FileWalk.of_infer inferred
  rfl

/-- For every tree and every output directory, the search for the project finds the nearest root
unless a way is too long for the file system. The import of the converter module leads from the
output directory to the module of that root, by points and by names of the module's own way alone,
so that it stands in the source as it is although nothing escapes it. -/
theorem converterImport_plain {workingDirectory : Location} {request : Request}
    (given : request.inputs workingDirectory tree = .ok inputs) :
    FindsNearest tree inputs.outputDirectory ∧
      (∀ root, projectRoot? tree inputs.outputDirectory = .ok (some root) →
        PlainImport inputs.outputDirectory root
          (Location.relativePath inputs.outputDirectory (converterLocation root))) ∧
        ∀ (preparation : Prepared inputs tree) (file : ModelFile),
          preparation.inference.result = .ok file →
            (sourceLines file)[1]? =
              some ("import '" ++ Location.relativePath inputs.outputDirectory
                (converterLocation preparation.root) ++ "';") := by
  obtain ⟨-, settled⟩ := inputs_eq_ok given
  obtain ⟨zeroFree, noFile⟩ := outputDirectory_of_inputs given
  refine ⟨findsNearest settled zeroFree noFile, fun root found => ?_, fun preparation file => ?_⟩
  · exact plainImport_relativePath (prefix_of_projectRoot? found) settled
  · exact preparation.importLine

end Run

/-! An output directory with quotes, and one with a long name -/

/-- A project inside another one. -/
def nestedTree : Tree :=
  .directory [("pubspec.yaml", .file (.text "name: outer\n")),
    ("user.json", .file (.text "\x7b\x7d")), ("lib", .directory []),
    ("it's $a", .directory [("pubspec.yaml", .file (.text "name: inner\n"))])]

def quotedRequest : Request :=
  ⟨.standard, some "user.json", some "it's $a/lib/[\"x\"]", []⟩

def quotedInputs : Inputs :=
  ⟨.standard, ["user.json"], ["it's $a", "lib", "[\"x\"]"], none, none⟩

theorem quotedRequest_inputs : quotedRequest.inputs [] nestedTree = .ok quotedInputs := by
  rfl

theorem projectRoot?_quotedInputs :
    projectRoot? nestedTree quotedInputs.outputDirectory = .ok (some ["it's $a"]) := by
  rfl

def quotedPreparation : Prepared quotedInputs nestedTree where
  job := ⟨.mapping [], "UserEntity", .standard, []⟩
  root := ["it's $a"]
  created := true
  prepared := (ensureConverter nestedTree ["it's $a"]).2
  read := by rfl
  found := projectRoot?_quotedInputs
  ensured := by rfl

def quotedFile : ModelFile :=
  ⟨"UserEntity", "../generate/json_value_converter.dart", [⟨"UserEntity", "UserEntity", []⟩]⟩

theorem inference_quotedPreparation : quotedPreparation.inference.result = .ok quotedFile := by
  rfl

/-- The output finds the inner project, and none of its own directories gets into the import. -/
theorem converterImport_plain_quoted :
    quotedRequest.inputs [] nestedTree = .ok quotedInputs ∧
      IsNearestRoot nestedTree quotedInputs.outputDirectory ["it's $a"] ∧
        PlainImport quotedInputs.outputDirectory ["it's $a"]
          "../generate/json_value_converter.dart" ∧
          (sourceLines quotedFile)[1]? =
            some "import '../generate/json_value_converter.dart';" := by
  obtain ⟨search, plain, line⟩ := converterImport_plain quotedRequest_inputs
  refine ⟨quotedRequest_inputs, ?_, plain _ projectRoot?_quotedInputs, ?_⟩
  · exact ((search.found _).mp projectRoot?_quotedInputs).2
  · exact line quotedPreparation quotedFile inference_quotedPreparation

/-- The output directory has a name of its own in the library. -/
def requestIn (name : String) : Request :=
  ⟨.standard, some "user.json", some (Location.joined ["lib", name]), []⟩

def inputsIn (name : String) : Inputs :=
  ⟨.standard, ["user.json"], ["lib", name], none, none⟩

section LongName

variable {name : String} (slashless : '/' ∉ name.toList) (zeroFree : '\x00' ∉ name.toList)
  (long : maxNameSize < name.utf8ByteSize)
include slashless zeroFree long

theorem requestIn_inputs : (requestIn name).inputs [] nestedTree = .ok (inputsIn name) := by
  have other {short : String} (fits : short.utf8ByteSize ≤ maxNameSize) : name ≠ short := by
    rintro rfl
    exact absurd long (Nat.not_lt.mpr fits)
  have filled : name ≠ "" := other (by decide)
  have point : name ≠ "." := other (by decide)
  have points : name ≠ ".." := other (by decide)
  have names : Location.pathNames (Location.joined ["lib", name]) = ["lib", name] := by
    apply Location.pathNames_joined (List.cons_ne_nil _ _)
    · simp [filled, point]
    · simp [slashless]
  have followed : Location.follow [] (Location.joined ["lib", name]) = ["lib", name] := by
    rw [Location.follow, ite_self, names, List.nil_append]
  have settled : Location.settle ["lib", name] = .ok ["lib", name] := by
    simp [Location.settle, Location.hasZero, Location.settled, Location.step, points, zeroFree]
  have named : namedLocation [] (fun there => !nestedTree.isFile there)
      (Location.joined ["lib", name]) = .ok ["lib", name] := by
    rw [namedLocation, followed, settled]
    rfl
  refine inputs_eq_ok_iff.mpr ⟨rfl, rfl, ?_, rfl, rfl⟩
  change some <$> namedLocation [] _ _ = _
  rw [named]
  rfl

/-- Although a pubspec file is above the output directory, the search for it fails at a long
name. -/
theorem root_hidden :
    (requestIn name).inputs [] nestedTree = .ok (inputsIn name) ∧
      IsNearestRoot nestedTree ["lib", name] [] ∧
        ∃ error, projectRoot? nestedTree ["lib", name] = .error error := by
  have given := requestIn_inputs slashless zeroFree long
  obtain ⟨-, settled⟩ := inputs_eq_ok given
  obtain ⟨zeroFree, noFile⟩ := outputDirectory_of_inputs given
  have overlong : nestedTree.Overlong (["lib"] ++ name :: [pubspecName]) := .name rfl rfl long
  refine ⟨given, find?_eq_some_iff_isNearestRoot.mp (by rfl), ?_⟩
  exact (findsNearest settled zeroFree noFile).refused.mpr overlong

end LongName

def longName : String := String.ofList (List.replicate 256 'd')

theorem root_hidden_longName :
    (requestIn longName).inputs [] nestedTree = .ok (inputsIn longName) ∧
      IsNearestRoot nestedTree ["lib", longName] [] ∧
        ∃ error, projectRoot? nestedTree ["lib", longName] = .error error := by
  have letters : longName.toList = List.replicate 256 'd' := String.toList_ofList
  have only {c : Char} (other : c ≠ 'd') : c ∉ longName.toList := by
    intro member
    rw [letters] at member
    exact other (List.mem_replicate.mp member).2
  exact root_hidden (only (by decide)) (only (by decide)) (by decide +kernel)

end DartModels.Cli
