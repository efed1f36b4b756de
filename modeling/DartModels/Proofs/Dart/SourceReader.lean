import DartModels.Dart.Source
import DartModels.Proofs.Dart.Literal
import DartModels.Proofs.Dart.Spelling
import DartModels.Proofs.Text.Avoidance
import DartModels.Text.Front

/-
Reading class declarations back out of Dart source, one line at a time.
-/

namespace DartModels.Dart

open DartModels.Name
open DartModels.Schema
open DartModels.Text

/-- What the source of a class says about one parameter; the wire key is the name that JSON text
has for it. -/
structure Parameter where
  name : String
  spelling : String
  converter? : Option Scalar
  default? : Option String
  isRequired : Bool
  wireKey : String
  deriving DecidableEq, Repr

structure Declaration where
  name : String
  parameters : List Parameter
  deriving DecidableEq, Repr

/-- What a line says by itself. -/
inductive LineMeaning where
  | nothing
  | declares (name : String)
  | namesKey (key : String)
  | converts (kind : Scalar)
  | defaultsTo (expression : String)
  | takes (isRequired : Bool) (spelling name : String)
  deriving DecidableEq, Repr

/-- The kind of scalar that a converter annotation is for. -/
def converterKind? (text : String) : Option Scalar :=
  if text = "@StringJsonConverter()" then some .string
  else if text = "@IntJsonConverter()" then some .integer
  else if text = "@DoubleJsonConverter()" then some .real
  else if text = "@BoolJsonConverter()" then some .boolean
  else none

/-- A key annotation ends right after the literal in it. -/
def readKey (content : List Char) : LineMeaning :=
  match StringLiteral.read? content with
  | some (key, [')']) => .namesKey (String.ofList key)
  | _ => .nothing

/-- A parameter is a type and a name with a comma, perhaps after the word for required ones. -/
def readParameter (content : List Char) : LineMeaning :=
  match cutAt ' ' content with
  | [spelling, name] => .takes false (String.ofList spelling) (String.ofList name.dropLast)
  | [word, spelling, name] =>
      if word = "required".toList then
        .takes true (String.ofList spelling) (String.ofList name.dropLast)
      else .nothing
  | _ => .nothing

/-- What stands between the parentheses of a constructor, one annotation or parameter a line. -/
def readContent (content : List Char) : LineMeaning :=
  match afterWord? "@JsonKey(name: '".toList content with
  | some key => readKey key
  | none =>
      match afterWord? "@Default(".toList content with
      | some expression => .defaultsTo (String.ofList expression.dropLast)
      | none =>
          match converterKind? (String.ofList content) with
          | some kind => .converts kind
          | none => readParameter content

/-- Only the head of a class and lines that are indented twice say something. -/
def readLine (line : List Char) : LineMeaning :=
  match afterWord? "    ".toList line with
  | some content => readContent content
  | none =>
      match afterWord? "abstract class ".toList line with
      | some head => .declares (String.ofList (head.takeWhile (· != ' ')))
      | none => .nothing

/-- What the lines of a text say from some point on: the parameters that belong to the class before
that point, and the classes after it. -/
structure Reading where
  parameters : List Parameter
  declarations : List Declaration
  deriving DecidableEq, Repr

namespace Reading

/-- An annotation is about the parameter after it. -/
def annotate (reading : Reading) (change : Parameter → Parameter) : Reading :=
  match reading.parameters with
  | [] => reading
  | next :: rest => { reading with parameters := change next :: rest }

/-- Takes in what a line says before the others; without an annotation, a parameter has its name as
its key. -/
def add (reading : Reading) : LineMeaning → Reading
  | .nothing => reading
  | .declares name => ⟨[], ⟨name, reading.parameters⟩ :: reading.declarations⟩
  | .namesKey key => reading.annotate fun next => { next with wireKey := key }
  | .converts kind => reading.annotate fun next => { next with converter? := some kind }
  | .defaultsTo expression =>
      reading.annotate fun next => { next with default? := some expression }
  | .takes isRequired spelling name =>
      { reading with
        parameters := ⟨name, spelling, none, none, isRequired, name⟩ :: reading.parameters }

/-- Takes in lines before the others, from the last one to the first. -/
def addLines (reading : Reading) (lines : List (List Char)) : Reading :=
  lines.foldr (fun line reading => reading.add (readLine line)) reading

theorem addLines_append (reading : Reading) (lines later : List (List Char)) :
    reading.addLines (lines ++ later) = (reading.addLines later).addLines lines :=
  List.foldr_append

theorem addLines_cons (reading : Reading) (line : List Char) (later : List (List Char)) :
    reading.addLines (line :: later) = (reading.addLines later).add (readLine line) := rfl

end Reading

/-- The classes that a source text declares, in their order. -/
def readSource (text : String) : List Declaration :=
  (Reading.addLines ⟨[], []⟩ (cutAt '\n' text.toList)).declarations

theorem readLine_indented (content : List Char) :
    readLine ("    ".toList ++ content) = readContent content := by
  rw [readLine, afterWord?_append]

theorem readLine_keyAnnotation (key : String) :
    readLine ("    @JsonKey(name: " ++ StringLiteral.literal key ++ ")").toList =
      .namesKey key := by
  have shape : ("    @JsonKey(name: " ++ StringLiteral.literal key ++ ")").toList =
      "    ".toList ++ ("@JsonKey(name: '".toList ++
        (StringLiteral.escapeChars key.toList ++ '\'' :: [')'])) := by
    simp [StringLiteral.literal, StringLiteral.escape]
  rw [shape, readLine_indented, readContent, afterWord?_append]
  dsimp only
  rw [readKey, StringLiteral.read?_escapeChars]
  exact congrArg LineMeaning.namesKey String.ofList_toList

theorem readLine_converterAnnotation (kind : Scalar) :
    readLine ("    @" ++ converterName kind ++ "()").toList = .converts kind := by
  cases kind <;> rfl

theorem readLine_defaultAnnotation (expression : String) :
    readLine ("    @Default(" ++ expression ++ ")").toList = .defaultsTo expression := by
  have shape : ("    @Default(" ++ expression ++ ")").toList =
      "    ".toList ++ ("@Default(".toList ++ (expression.toList ++ [')'])) := by
    simp
  have other : afterWord? "@JsonKey(name: '".toList
      ("@Default(".toList ++ (expression.toList ++ [')'])) = none := by
    simp [afterWord?]
  rw [shape, readLine_indented, readContent, other, afterWord?_append]
  dsimp only
  rw [List.dropLast_concat, String.ofList_toList]

theorem converterKind?_eq_none {text : String} (absent : '@' ∉ text.toList) :
    converterKind? text = none := by
  have different {word : String} (marked : '@' ∈ word.toList) : text ≠ word := by
    rintro rfl
    exact absent marked
  unfold converterKind?
  rw [if_neg (different (by decide)), if_neg (different (by decide)),
    if_neg (different (by decide)), if_neg (different (by decide))]

/-- Without the mark of an annotation, a line is about a parameter. -/
theorem readContent_of_notMem {content : List Char} (absent : '@' ∉ content) :
    readContent content = readParameter content := by
  have none : converterKind? (String.ofList content) = none := by
    apply converterKind?_eq_none
    rwa [String.toList_ofList]
  rw [readContent, afterWord?_eq_none (by decide) absent, afterWord?_eq_none (by decide) absent,
    none]

theorem readParameter_optional {spelling name : List Char} (oneWord : ' ' ∉ spelling)
    (oneName : ' ' ∉ name) :
    readParameter (spelling ++ ' ' :: (name ++ [','])) =
      .takes false (String.ofList spelling) (String.ofList name) := by
  have noBlank : ' ' ∉ name ++ [','] := by simp [oneName]
  rw [readParameter, cutAt_append _ _ _ oneWord, cutAt_free _ _ noBlank]
  dsimp only
  rw [List.dropLast_concat]

theorem readParameter_required {spelling name : List Char} (oneWord : ' ' ∉ spelling)
    (oneName : ' ' ∉ name) :
    readParameter ("required".toList ++ ' ' :: (spelling ++ ' ' :: (name ++ [',']))) =
      .takes true (String.ofList spelling) (String.ofList name) := by
  have noBlank : ' ' ∉ name ++ [','] := by simp [oneName]
  rw [readParameter, cutAt_append _ _ _ (by decide), cutAt_append _ _ _ oneWord,
    cutAt_free _ _ noBlank]
  dsimp only
  rw [if_pos rfl, List.dropLast_concat]

/-- A parameter is read back if its type and its name are spelled without blanks. -/
theorem readLine_parameterLine {field : Field}
    (spelled : (typeName field.type).toList.all isSpellingChar = true)
    (named : field.name.toList.all isIdentifierChar = true) :
    readLine (parameterLine field).toList =
      .takes field.isRequired (typeName field.type) field.name := by
  have oneWord : ' ' ∉ (typeName field.type).toList := notMem_of_all spelled rfl
  have oneName : ' ' ∉ field.name.toList := notMem_of_all named rfl
  have unmarkedType : '@' ∉ (typeName field.type).toList := notMem_of_all spelled rfl
  have unmarkedName : '@' ∉ field.name.toList := notMem_of_all named rfl
  cases required : field.isRequired with
  | true =>
      have shape : (parameterLine field).toList = "    ".toList ++ ("required".toList ++
          ' ' :: ((typeName field.type).toList ++ ' ' :: (field.name.toList ++ [',']))) := by
        simp [parameterLine, required]
      rw [shape, readLine_indented, readContent_of_notMem, readParameter_required oneWord oneName,
        String.ofList_toList, String.ofList_toList]
      simp [unmarkedType, unmarkedName]
  | false =>
      have shape : (parameterLine field).toList = "    ".toList ++
          ((typeName field.type).toList ++ ' ' :: (field.name.toList ++ [','])) := by
        simp [parameterLine, required]
      rw [shape, readLine_indented, readContent_of_notMem, readParameter_optional oneWord oneName,
        String.ofList_toList, String.ofList_toList]
      simp [unmarkedType, unmarkedName]

/-- What the source says about a field. -/
def parameter (field : Field) : Parameter :=
  ⟨field.name, typeName field.type, field.converter?, field.defaultLiteral, field.isRequired,
    field.key⟩

def declaration (model : Model) : Declaration := ⟨model.name, model.fields.map parameter⟩

end DartModels.Dart
