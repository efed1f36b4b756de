import DartModels.Proofs.Dart.ClassHead
import DartModels.Proofs.Dart.RoundTrip
import DartModels.Proofs.Dart.Scan

/-
Source that is written for a model file passes the structural check.
-/

namespace DartModels.Dart

open DartModels.Document
open DartModels.Name
open DartModels.Number
open DartModels.Options
open DartModels.Schema
open DartModels.Text

/-- A text without the quotes that open literals and the brackets that are counted. -/
abbrev Plain (text : String) : Prop := Avoids ['\'', '"', '(', ')', '\x7b', '\x7d'] text

/-- The openings in a code less the closings. -/
def surplus (opening closing : Char) (code : List Char) : Int :=
  code.count opening - code.count closing

theorem surplus_append (opening closing : Char) (code later : List Char) :
    surplus opening closing (code ++ later) =
      surplus opening closing code + surplus opening closing later := by
  simp only [surplus, List.count_append]
  omega

theorem surplus_eq_zero {opening closing : Char} {code : List Char} (unopened : opening ∉ code)
    (unclosed : closing ∉ code) : surplus opening closing code = 0 := by
  rw [surplus, List.count_eq_zero_of_not_mem unopened, List.count_eq_zero_of_not_mem unclosed]
  rfl

theorem checkBrackets_eq_ok {opening closing : Char} {code : List Char}
    (balanced : surplus opening closing code = 0) :
    checkBrackets code opening closing = .ok () := by
  have same : code.count opening = code.count closing := by
    unfold surplus at balanced
    omega
  exact if_pos same

/-- The code of a text opens so many more braces and parentheses than it closes. -/
def Opens (braces parens : Int) (text : String) : Prop :=
  ∃ code, HasCode text.toList code ∧ surplus '\x7b' '\x7d' code = braces ∧
    surplus '(' ')' code = parens

namespace Opens

variable {braces parens moreBraces moreParens : Int} {text later : String}

theorem append (first : Opens braces parens text) (second : Opens moreBraces moreParens later) :
    Opens (braces + moreBraces) (parens + moreParens) (text ++ later) := by
  obtain ⟨code, own, rfl, rfl⟩ := first
  obtain ⟨others, ofLater, rfl, rfl⟩ := second
  refine ⟨code ++ others, ?_, surplus_append _ _ _ _, surplus_append _ _ _ _⟩
  rw [String.toList_append]
  exact own.append ofLater

/-- All of a text without quotes is code. -/
theorem code (quoteless : Avoids ['\'', '"'] text)
    (opened : surplus '\x7b' '\x7d' text.toList = braces)
    (entered : surplus '(' ')' text.toList = parens) : Opens braces parens text :=
  ⟨text.toList, .of_quoteless (Avoids.iff_forall.mp quoteless), opened, entered⟩

theorem plain (plain : Plain text) : Opens 0 0 text := by
  apply code
  · exact plain.of_fewer (by simp)
  · exact surplus_eq_zero (plain.notMem (by decide)) (plain.notMem (by decide))
  · exact surplus_eq_zero (plain.notMem (by decide)) (plain.notMem (by decide))

theorem codeless (codeless : HasCode text.toList []) : Opens 0 0 text := ⟨[], codeless, rfl, rfl⟩

/-- A text that is balanced in itself adds nothing. -/
theorem append_balanced (first : Opens braces parens text) (second : Opens 0 0 later) :
    Opens braces parens (text ++ later) := by
  have sum := first.append second
  rwa [Int.add_zero, Int.add_zero] at sum

theorem line (own : Opens braces parens text) {rest : List String}
    (others : Opens moreBraces moreParens (unlines rest)) :
    Opens (braces + moreBraces) (parens + moreParens) (unlines (text :: rest)) := by
  have shape : unlines (text :: rest) = text ++ "\n" ++ unlines rest := by
    apply String.toList_inj.mp
    rw [toList_unlines_cons]
    simp
  rw [shape]
  exact (own.append_balanced (.plain (by decide))).append others

theorem lines {lines : List String} (each : ∀ line ∈ lines, Opens 0 0 line) :
    Opens 0 0 (unlines lines) := by
  induction lines with
  | nil => exact .plain (by decide)
  | cons line lines ih =>
      obtain ⟨own, others⟩ := List.forall_mem_cons.mp each
      exact own.line (ih others)

end Opens

section Lines

variable {config : Config} {overrides : List Override}

/-- A default literal is balanced if the expressions are plain that are given. -/
theorem opens_literal {text : String} (source : LiteralSource config overrides text)
    (given : ∀ expression, Verbatim config overrides expression → Plain expression) :
    Opens 0 0 text := by
  cases source with
  | given verbatim part => exact .plain ((given _ verbatim).of_subset part)
  | emptyList => exact .plain (by decide)
  | quoted value => exact .codeless (.literal value)
  | numeral numeral => exact .plain (.of_all numeral (by decide))

theorem opens_fieldLines {model : Model} {field : Field} (spelled : Spelled model)
    (member : field ∈ model.fields)
    (literal : ∀ text, field.defaultLiteral = some text → Opens 0 0 text) :
    ∀ line ∈ fieldLines field, Opens 0 0 line := by
  have closed : Opens 0 (-1) ")" := .code (by decide) (by decide) (by decide)
  apply forall_mem_fieldLines
  case key =>
    have opened : Opens 0 1 "    @JsonKey(name: " := .code (by decide) (by decide) (by decide)
    exact (opened.append_balanced (.codeless (.literal field.key))).append closed
  case converter =>
    intro kind
    cases kind <;> exact .code (by decide) (by decide) (by decide)
  case default =>
    intro text found
    have opened : Opens 0 1 "    @Default(" := .code (by decide) (by decide) (by decide)
    exact (opened.append_balanced (literal text found)).append closed
  case parameter =>
    have indent : Opens 0 0 "    " := .plain (by decide)
    have word : Plain (if field.isRequired then "required " else "") := by
      split <;> decide
    have type : Plain (typeName field.type) := .of_all (spelled.types field member) (by decide)
    have name : Plain field.name := .of_all (spelled.fieldNames field member) (by decide)
    exact ((((indent.append_balanced (.plain word)).append_balanced (.plain type)).append_balanced
      (.plain (by decide))).append_balanced (.plain name)).append_balanced (.plain (by decide))

theorem opens_unlines_nil : Opens 0 0 (unlines []) := .plain (by decide)

/-- A class has two braces and a parenthesis open before its parameters. -/
theorem opens_above {name : String} (named : Opens 0 0 name) :
    Opens 2 1 (unlines
      ["@Freezed(fromJson: true, toJson: true)",
        "abstract class " ++ name ++ " with _$" ++ name ++ " \x7b",
        "  const factory " ++ name ++ "(\x7b"]) := by
  have annotated : Opens 0 0 "@Freezed(fromJson: true, toJson: true)" :=
    .code (by decide) (by decide) (by decide)
  have declared : Opens 0 0 "abstract class " := .plain (by decide)
  have mixed : Opens 0 0 " with _$" := .plain (by decide)
  have opened : Opens 1 0 " \x7b" := .code (by decide) (by decide) (by decide)
  have built : Opens 0 0 "  const factory " := .plain (by decide)
  have entered : Opens 1 1 "(\x7b" := .code (by decide) (by decide) (by decide)
  have head := (((declared.append_balanced named).append_balanced mixed).append_balanced
    named).append opened
  have constructor := (built.append_balanced named).append entered
  exact annotated.line (head.line (constructor.line opens_unlines_nil))

/-- They are closed again after them. -/
theorem opens_below {name : String} (named : Opens 0 0 name) :
    Opens (-2) (-1) (unlines
      ["  \x7d) = _" ++ name ++ ";", "",
        "  factory " ++ name ++ ".fromJson(Map<String, dynamic> json) => _$" ++ name ++
          "FromJson(json);",
        "\x7d"]) := by
  have left : Opens (-1) (-1) "  \x7d) = _" := .code (by decide) (by decide) (by decide)
  have ended : Opens 0 0 ";" := .plain (by decide)
  have nothing : Opens 0 0 "" := .plain (by decide)
  have built : Opens 0 0 "  factory " := .plain (by decide)
  have taken : Opens 0 0 ".fromJson(Map<String, dynamic> json) => _$" :=
    .code (by decide) (by decide) (by decide)
  have called : Opens 0 0 "FromJson(json);" := .code (by decide) (by decide) (by decide)
  have closed : Opens (-1) 0 "\x7d" := .code (by decide) (by decide) (by decide)
  have constructor := (left.append_balanced named).append_balanced ended
  have factory := (((built.append_balanced named).append_balanced taken).append_balanced
    named).append_balanced called
  exact constructor.line (nothing.line (factory.line (closed.line opens_unlines_nil)))

/-- A class closes what it opens, with its parameters in between. -/
theorem opens_modelLines {model : Model} (composed : model.Composed config overrides)
    (given : ∀ expression, Verbatim config overrides expression → Plain expression) :
    Opens 0 0 (unlines (modelLines model)) := by
  have spelled := Spelled.of_composed composed
  have named : Opens 0 0 model.name := .plain (.of_all spelled.name (by decide))
  have parameters : Opens 0 0 (unlines (model.fields.flatMap fieldLines)) := by
    apply Opens.lines
    intro line own
    obtain ⟨field, member, own⟩ := List.mem_flatMap.mp own
    refine opens_fieldLines spelled member ?_ line own
    exact fun text found => opens_literal (composed.literals field member text found) given
  rw [modelLines, unlines_append, unlines_append]
  exact ((opens_above named).append_balanced parameters).append (opens_below named)

end Lines

/-- A directive is balanced if its path stays inside its literal. -/
theorem opens_directive {line word : String} (path : String) (plain : Plain word)
    (enclosed : Enclosed path.toList) (shape : line = word ++ ("'" ++ path ++ "'") ++ ";") :
    Opens 0 0 line := by
  have quoted : Opens 0 0 ("'" ++ path ++ "'") := by
    apply Opens.codeless
    rw [String.toList_append, String.toList_append, List.append_assoc]
    exact .of_enclosed enclosed
  rw [shape]
  exact ((Opens.plain plain).append_balanced quoted).append_balanced (.plain (by decide))

theorem opens_directives {file : ModelFile} (enclosed : Enclosed file.converterImport.toList) :
    Opens 0 0 (unlines (directives file)) := by
  have stem : Enclosed (fileStem file.rootName).toList :=
    .of_avoids (.of_all (isIdentifierChar_fileStem file.rootName) (by decide))
  have part (suffix : String) (avoids : Avoids ['\'', '\\', '\n'] suffix) :
      Enclosed (fileStem file.rootName ++ suffix).toList := by
    rw [String.toList_append]
    exact stem.append (.of_avoids avoids)
  apply Opens.lines
  intro line own
  simp only [directives, List.mem_cons, List.not_mem_nil, or_false] at own
  have imports : Plain "import " := by decide
  have parts : Plain "part " := by decide
  rcases own with rfl | rfl | rfl | rfl | rfl
  · exact opens_directive annotationImport imports (.of_avoids (by decide)) rfl
  · exact opens_directive _ imports enclosed (String.toList_inj.mp (by simp))
  · exact .plain (by decide)
  · exact opens_directive _ parts (part ".freezed.dart" (by decide))
      (String.toList_inj.mp (by simp))
  · exact opens_directive _ parts (part ".g.dart" (by decide)) (String.toList_inj.mp (by simp))

/-- The whole source is balanced. -/
theorem opens_source {config : Config} {overrides : List Override} {file : ModelFile}
    (composed : ∀ model ∈ file.models, model.Composed config overrides)
    (importPath : Avoids ['\'', '\\', '\n'] file.converterImport)
    (given : ∀ expression, Verbatim config overrides expression → Plain expression) :
    Opens 0 0 (source file) := by
  have classes : Opens 0 0 (unlines (file.models.flatMap fun model => "" :: modelLines model)) := by
    generalize file.models = models at composed
    induction models with
    | nil => exact opens_unlines_nil
    | cons model models ih =>
        obtain ⟨own, others⟩ := List.forall_mem_cons.mp composed
        have blank : Opens 0 0 "" := .plain (by decide)
        rw [List.flatMap_cons, unlines_append]
        exact (blank.line (opens_modelLines own given)).append_balanced (ih others)
  rw [source, sourceLines, unlines_append]
  exact (opens_directives (.of_avoids importPath)).append_balanced classes

theorem checkStructure_eq_ok {text : String} (declares : declaresClass text.toList = true)
    (balanced : Opens 0 0 text) : checkStructure text = .ok () := by
  obtain ⟨code, own, braces, parens⟩ := balanced
  have outside : outsideLiterals text.toList = code := by
    have nothing : outsideLiterals [] = [] := rfl
    have whole := own []
    rwa [List.append_nil, nothing, List.append_nil] at whole
  rw [checkStructure, if_pos declares, outside]
  simp only [checkBrackets_eq_ok braces, checkBrackets_eq_ok parens]
  rfl

/-- The source of an inferred file passes the structural check, whatever the keys of the document
and the configured default of texts are. -/
theorem checkStructure_source_of_modelFile {config : Config} {overrides : List Override}
    {rootName converterImport : String} {sample : Sample} {file : ModelFile}
    (inferred : (sample.modelFile config overrides rootName converterImport).result = .ok file)
    (importPath : Avoids ['\'', '\\', '\n'] converterImport)
    (given : ∀ expression, Verbatim config overrides expression → Plain expression) :
    checkStructure (source file) = .ok () := by
  obtain ⟨members, -, inferred⟩ := modelFile_eq_ok inferred
  have walk := FileWalk.of_infer inferred
  have composed := walk.composed
  cases walk with
  | @root limit members name fields models =>
      have legal := (composed ⟨name, rootName, fields⟩ List.mem_cons_self).named.className
      exact checkStructure_eq_ok (declaresClass_source rfl legal)
        (opens_source composed importPath given)

theorem checkStructure_source_spoofFile :
    (spoofSample.modelFile spoofConfig spoofOverrides "spoof"
        "package:app/converter.dart").result = .ok spoofFile ∧
      checkStructure (source spoofFile) = .ok () := by
  refine ⟨modelFile_spoofSample, ?_⟩
  refine checkStructure_source_of_modelFile modelFile_spoofSample (by decide) ?_
  intro expression verbatim
  rcases verbatim_spoof verbatim with rfl | rfl <;> decide

end DartModels.Dart
