import DartModels.Proofs.Dart.SourceReader
import DartModels.Proofs.Name.FileStem
import DartModels.Proofs.Schema.FieldContent
import DartModels.Proofs.Schema.Outline

/-
Source that is written for a model file reads back as the classes of the file.
-/

namespace DartModels.Dart

open DartModels.Document
open DartModels.Name
open DartModels.Number
open DartModels.Options
open DartModels.Schema
open DartModels.Text

/-- Names and types that are spelled without blanks, as reading them back needs. -/
structure Spelled (model : Model) : Prop where
  name : model.name.toList.all isIdentifierChar = true
  fieldNames : ∀ field ∈ model.fields, field.name.toList.all isIdentifierChar = true
  types : ∀ field ∈ model.fields, (typeName field.type).toList.all isSpellingChar = true

/-- Legal names are spelled so, and so are the types that refer to classes by legal names. -/
theorem Spelled.of_composed {config : Config} {overrides : List Override} {model : Model}
    (composed : model.Composed config overrides) : Spelled model := by
  constructor
  case name => exact composed.named.className.isIdentifierChar_className
  case fieldNames =>
    exact fun field member =>
      (composed.named.fieldNames field member).isIdentifierChar_parameterName
  case types =>
    intro field member
    apply isSpellingChar_typeName
    exact fun name refers =>
      composed.references name (List.mem_flatMap.mpr ⟨field, member, refers⟩)

namespace Reading

variable (next : Parameter) (rest : List Parameter) (declarations : List Declaration)

theorem addLines_keyLine (field : Field) (unannotated : next.wireKey = field.name) :
    addLines ⟨next :: rest, declarations⟩ ((keyLine field).map String.toList) =
      ⟨{ next with wireKey := field.key } :: rest, declarations⟩ := by
  unfold keyLine
  split
  next => rw [List.map_singleton, addLines_cons, readLine_keyAnnotation]; rfl
  next same =>
    have key : next.wireKey = field.key := by
      rw [unannotated]
      simpa [Field.needsKey] using same
    rw [← key]
    rfl

theorem addLines_converterLine (field : Field) (unannotated : next.converter? = none) :
    addLines ⟨next :: rest, declarations⟩ ((converterLine field).map String.toList) =
      ⟨{ next with converter? := field.converter? } :: rest, declarations⟩ := by
  unfold converterLine
  cases field.converter? with
  | none =>
      cases next
      cases unannotated
      rfl
  | some kind =>
      rw [List.map_singleton, addLines_cons, readLine_converterAnnotation]
      rfl

theorem addLines_defaultLine (field : Field) (unannotated : next.default? = none) :
    addLines ⟨next :: rest, declarations⟩ ((defaultLine field).map String.toList) =
      ⟨{ next with default? := field.defaultLiteral } :: rest, declarations⟩ := by
  unfold defaultLine
  cases field.defaultLiteral with
  | none =>
      cases next
      cases unannotated
      rfl
  | some literal =>
      rw [List.map_singleton, addLines_cons, readLine_defaultAnnotation]
      rfl

/-- The lines of a field say what its parameter is and nothing about the others. -/
theorem addLines_fieldLines {field : Field}
    (spelled : (typeName field.type).toList.all isSpellingChar = true)
    (named : field.name.toList.all isIdentifierChar = true) :
    addLines ⟨rest, declarations⟩ ((fieldLines field).map String.toList) =
      ⟨parameter field :: rest, declarations⟩ := by
  rw [fieldLines, List.map_append, List.map_append, List.map_append, addLines_append,
    addLines_append, addLines_append, List.map_singleton, addLines_cons,
    readLine_parameterLine spelled named]
  -- lines are taken in from the last one: first the bare parameter, then what is said about it
  change addLines (addLines (addLines
    ⟨⟨field.name, typeName field.type, none, none, field.isRequired, field.name⟩ :: rest,
      declarations⟩ _) _) _ = _
  rw [addLines_defaultLine _ _ _ field rfl, addLines_converterLine _ _ _ field rfl,
    addLines_keyLine _ _ _ field rfl]
  rfl

theorem addLines_fields {fields : List Field}
    (types : ∀ field ∈ fields, (typeName field.type).toList.all isSpellingChar = true)
    (names : ∀ field ∈ fields, field.name.toList.all isIdentifierChar = true) :
    addLines ⟨rest, declarations⟩ ((fields.flatMap fieldLines).map String.toList) =
      ⟨fields.map parameter ++ rest, declarations⟩ := by
  induction fields with
  | nil => rfl
  | cons field others ih =>
      obtain ⟨type, types⟩ := List.forall_mem_cons.mp types
      obtain ⟨name, names⟩ := List.forall_mem_cons.mp names
      rw [List.flatMap_cons, List.map_append, addLines_append, ih types names,
        addLines_fieldLines _ _ type name]
      rfl

theorem readLine_head {name : String} (named : name.toList.all isIdentifierChar = true) :
    readLine ("abstract class " ++ name ++ " with _$" ++ name ++ " \x7b").toList =
      .declares name := by
  have shape : ("abstract class " ++ name ++ " with _$" ++ name ++ " \x7b").toList =
      "abstract class ".toList ++ (name.toList ++ (" with _$" ++ name ++ " \x7b").toList) := by
    simp
  have unindented : afterWord? "    ".toList
      ("abstract class ".toList ++ (name.toList ++ (" with _$" ++ name ++ " \x7b").toList)) =
        none := by
    simp [afterWord?]
  have word : ∀ c ∈ name.toList, (c != ' ') = true := by
    intro c member
    rw [bne_iff_ne]
    rintro rfl
    exact notMem_of_all named rfl member
  rw [shape, readLine, unindented, afterWord?_append]
  dsimp only
  rw [List.takeWhile_append_of_pos word]
  simp

/-- The lines of a class say its name and its parameters. -/
theorem addLines_modelLines {model : Model} (spelled : Spelled model) :
    addLines ⟨[], declarations⟩ ((modelLines model).map String.toList) =
      ⟨[], declaration model :: declarations⟩ := by
  -- nothing below the parameters is indented twice or begins like the head of a class
  have below : addLines ⟨[], declarations⟩
      (["  \x7d) = _" ++ model.name ++ ";", "",
        "  factory " ++ model.name ++ ".fromJson(Map<String, dynamic> json) => _$" ++ model.name ++
          "FromJson(json);",
        "\x7d"].map String.toList) = ⟨[], declarations⟩ := by
    simp [addLines, readLine, afterWord?, add]
  have constructor : readLine ("  const factory " ++ model.name ++ "(\x7b").toList = .nothing := by
    simp [readLine, afterWord?]
  have head : readLine "@Freezed(fromJson: true, toJson: true)".toList = .nothing := by
    simp [readLine, afterWord?]
  rw [modelLines, List.map_append, List.map_append, addLines_append, addLines_append, below,
    addLines_fields [] declarations spelled.types spelled.fieldNames, List.append_nil]
  simp only [List.map_cons, List.map_nil, addLines_cons, readLine_head spelled.name, constructor,
    head]
  rfl

theorem addLines_models {models : List Model} (spelled : ∀ model ∈ models, Spelled model) :
    addLines ⟨[], declarations⟩
        ((models.flatMap fun model => "" :: modelLines model).map String.toList) =
      ⟨[], models.map declaration ++ declarations⟩ := by
  induction models with
  | nil => rfl
  | cons model others ih =>
      obtain ⟨own, others⟩ := List.forall_mem_cons.mp spelled
      rw [List.flatMap_cons, List.map_append, addLines_append, ih others, List.map_cons,
        addLines_cons, addLines_modelLines _ own]
      rfl

end Reading

/-- Source whose lines have no line feeds inside reads back as the classes it was written for. -/
theorem readSource_source {file : ModelFile} (spelled : ∀ model ∈ file.models, Spelled model)
    (oneLine : ∀ line ∈ sourceLines file, '\n' ∉ line.toList) :
    readSource (source file) = file.models.map declaration := by
  have directivesSayNothing (reading : Reading) :
      reading.addLines ((directives file).map String.toList) = reading := by
    simp [directives, Reading.addLines, readLine, afterWord?, Reading.add]
  rw [readSource, source, cutAt_unlines _ oneLine, Reading.addLines_append, sourceLines,
    List.map_append, Reading.addLines_append]
  change (Reading.addLines (Reading.addLines ⟨[], []⟩ _) _).declarations = _
  rw [Reading.addLines_models [] spelled, directivesSayNothing, List.append_nil]

/-- The kinds of lines that a field can have. -/
theorem forall_mem_fieldLines {field : Field} {holds : String → Prop}
    (key : holds ("    @JsonKey(name: " ++ StringLiteral.literal field.key ++ ")"))
    (converter : ∀ kind, holds ("    @" ++ converterName kind ++ "()"))
    (default : ∀ text, field.defaultLiteral = some text → holds ("    @Default(" ++ text ++ ")"))
    (parameter : holds (parameterLine field)) : ∀ line ∈ fieldLines field, holds line := by
  simp only [fieldLines, List.forall_mem_append, List.forall_mem_singleton]
  refine ⟨⟨⟨?_, ?_⟩, ?_⟩, parameter⟩
  · unfold keyLine
    split
    · exact List.forall_mem_singleton.mpr key
    · exact List.forall_mem_nil _
  · unfold converterLine
    split
    · exact List.forall_mem_singleton.mpr (converter _)
    · exact List.forall_mem_nil _
  · unfold defaultLine
    split
    next text found => exact List.forall_mem_singleton.mpr (default text found)
    next => exact List.forall_mem_nil _

section OneLine

variable {config : Config} {overrides : List Override}

/-- A default literal stays on its line if the expressions do that are given. -/
theorem newline_notMem_literal {text : String} (source : LiteralSource config overrides text)
    (given : ∀ expression, Verbatim config overrides expression → '\n' ∉ expression.toList) :
    '\n' ∉ text.toList := by
  cases source with
  | given verbatim part => exact fun member => given _ verbatim (part member)
  | emptyList => decide
  | quoted value =>
      have escaped := StringLiteral.newline_notMem_escapeChars value.toList
      simp [StringLiteral.literal, StringLiteral.escape, escaped]
  | numeral numeral => exact notMem_of_all numeral rfl

theorem newline_notMem_fieldLines {model : Model} {field : Field} (spelled : Spelled model)
    (member : field ∈ model.fields)
    (literal : ∀ text, field.defaultLiteral = some text → '\n' ∉ text.toList) :
    ∀ line ∈ fieldLines field, '\n' ∉ line.toList := by
  apply forall_mem_fieldLines
  case key =>
    have escaped := StringLiteral.newline_notMem_escapeChars field.key.toList
    simp [StringLiteral.literal, StringLiteral.escape, escaped]
  case converter =>
    intro kind
    cases kind <;> decide
  case default =>
    intro text found
    simp [literal text found]
  case parameter =>
    have name : '\n' ∉ field.name.toList := notMem_of_all (spelled.fieldNames field member) rfl
    have type : '\n' ∉ (typeName field.type).toList :=
      notMem_of_all (spelled.types field member) rfl
    unfold parameterLine
    split <;> simp [name, type]

theorem newline_notMem_modelLines {model : Model} (composed : model.Composed config overrides)
    (given : ∀ expression, Verbatim config overrides expression → '\n' ∉ expression.toList) :
    ∀ line ∈ modelLines model, '\n' ∉ line.toList := by
  have spelled := Spelled.of_composed composed
  have name : '\n' ∉ model.name.toList := notMem_of_all spelled.name rfl
  rw [modelLines]
  simp only [List.forall_mem_append]
  refine ⟨⟨?_, ?_⟩, ?_⟩
  · simp [name]
  · intro line own
    obtain ⟨field, member, own⟩ := List.mem_flatMap.mp own
    refine newline_notMem_fieldLines spelled member ?_ line own
    exact fun text found =>
      newline_notMem_literal (composed.literals field member text found) given
  · simp [name]

theorem newline_notMem_sourceLines {file : ModelFile}
    (composed : ∀ model ∈ file.models, model.Composed config overrides)
    (importLine : '\n' ∉ file.converterImport.toList)
    (given : ∀ expression, Verbatim config overrides expression → '\n' ∉ expression.toList) :
    ∀ line ∈ sourceLines file, '\n' ∉ line.toList := by
  have stem : '\n' ∉ (fileStem file.rootName).toList :=
    notMem_of_all (isIdentifierChar_fileStem file.rootName) rfl
  rw [sourceLines]
  simp only [List.forall_mem_append]
  constructor
  · simp [directives, annotationImport, importLine, stem]
  · intro line own
    obtain ⟨model, member, own⟩ := List.mem_flatMap.mp own
    rcases List.mem_cons.mp own with rfl | own
    · decide
    · exact newline_notMem_modelLines (composed model member) given line own

end OneLine

/-- The source of an inferred file, whose keys may be any texts, reads back as its classes, and the
wire keys in it are the keys of the objects in the document. -/
theorem readSource_source_of_modelFile {config : Config} {overrides : List Override}
    {rootName converterImport : String} {sample : Sample} {file : ModelFile}
    (inferred : (sample.modelFile config overrides rootName converterImport).result = .ok file)
    (importLine : '\n' ∉ converterImport.toList)
    (given : ∀ expression, Verbatim config overrides expression → '\n' ∉ expression.toList) :
    readSource (source file) = file.models.map declaration ∧
      ∃ members, (sample.objectRoot config.maxDepth).result = .ok (.object members) ∧
        (readSource (source file)).map (fun found => found.parameters.map Parameter.wireKey) =
          (sites (.object members)).map fun site => site.map Prod.fst := by
  obtain ⟨members, rooted, inferred⟩ := modelFile_eq_ok inferred
  have walk := FileWalk.of_infer inferred
  have composed := walk.composed
  have converter : file.converterImport = converterImport := by
    cases walk
    rfl
  have oneLine := newline_notMem_sourceLines composed (converter ▸ importLine) given
  have spelled : ∀ model ∈ file.models, Spelled model :=
    fun model member => .of_composed (composed model member)
  have read := readSource_source spelled oneLine
  refine ⟨read, members, rooted, ?_⟩
  rw [read, ← walk.keys, List.map_map]
  apply List.map_congr_left
  intro model _
  simp [declaration, parameter, Function.comp_def]

/-- A sample whose keys look like the source around them. -/
def spoofSample : Sample :=
  .decoded
    (.mapping
      [(.text "'); @Default(0)", .text "a"), (.text "it's $x \\", .integer 1),
        (.text "line\nfeed", .list [.integer 3, .null]),
        (.text "\x7d abstract class Fake with _$Fake \x7b",
          .mapping [(.text "    int id,\n", .boolean true), (.text "id", .null)])])

/-- The default of texts looks like source as well. -/
def spoofConfig : Config :=
  { Config.standard with
    useDefaultValues := .boolean true
    defaults :=
      .texts { Defaults.empty with stringValue := "',\n  \x7d) = _$", listValue := "const [1]" } }

def spoofOverrides : List Override :=
  [⟨.text "it's $x \\", some "count", .boolean true, some "1 + 1"⟩]

def spoofFile : ModelFile where
  rootName := "spoof"
  converterImport := "package:app/converter.dart"
  models :=
    [⟨"Spoof", "spoof",
        [⟨"default0", "'); @Default(0)", .scalar .string false,
            some "'\\',\\n  \x7d) = _\\$'"⟩,
          ⟨"count", "it's $x \\", .scalar .integer true, some "1 + 1"⟩,
          ⟨"lineFeed", "line\nfeed", .listOf (.scalar .integer true) false, some "const [1]"⟩,
          ⟨"abstractClassFakeWithFake", "\x7d abstract class Fake with _$Fake \x7b",
            .model "AbstractClassFakeWithFake" false, none⟩]⟩,
      ⟨"AbstractClassFakeWithFake", "\x7d abstract class Fake with _$Fake \x7b",
        [⟨"intId", "    int id,\n", .scalar .boolean false, some "false"⟩,
          ⟨"id", "id", .untyped false, none⟩]⟩]

theorem modelFile_spoofSample :
    (spoofSample.modelFile spoofConfig spoofOverrides "spoof"
      "package:app/converter.dart").result = .ok spoofFile := by
  rfl

theorem verbatim_spoof {expression : String}
    (verbatim : Verbatim spoofConfig spoofOverrides expression) :
    expression = "1 + 1" ∨ expression = "const [1]" := by
  cases verbatim with
  | asked member given =>
      obtain rfl := List.mem_singleton.mp member
      exact .inl (Option.some.inj given).symm
  | list configured =>
      cases configured
      exact .inr rfl

theorem readSource_source_spoofFile :
    (spoofSample.modelFile spoofConfig spoofOverrides "spoof"
        "package:app/converter.dart").result = .ok spoofFile ∧
      readSource (source spoofFile) = spoofFile.models.map declaration ∧
      ∃ members, (spoofSample.objectRoot spoofConfig.maxDepth).result = .ok (.object members) ∧
        (readSource (source spoofFile)).map (fun found => found.parameters.map Parameter.wireKey) =
          (sites (.object members)).map fun site => site.map Prod.fst := by
  refine ⟨modelFile_spoofSample, ?_⟩
  refine readSource_source_of_modelFile modelFile_spoofSample (by decide) ?_
  intro expression verbatim
  rcases verbatim_spoof verbatim with rfl | rfl <;> decide

end DartModels.Dart
