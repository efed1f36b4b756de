import DartModels.Proofs.Dart.Spelling
import DartModels.Proofs.Schema.TypeForm
import DartModels.Proofs.Text.Avoidance
import DartModels.Text.Front

/-
Reading types of Dart back, from the outermost layer to the innermost.
-/

namespace DartModels.Dart

open DartModels.Name
open DartModels.Schema
open DartModels.Text

/-- The text before a mark at its end, and whether there is one. -/
def unmark (text : List Char) : List Char × Bool :=
  if text.getLast? = some '?' then (text.dropLast, true) else (text, false)

/-- What stands between the brackets of a list type. -/
def listElement? (text : List Char) : Option (List Char) :=
  match afterWord? "List<".toList text with
  | some rest => if rest.getLast? = some '>' then some rest.dropLast else none
  | none => none

/-- The scalars that a built-in name may stand for. -/
def scalarNamed? (name : String) : Option Scalar :=
  [Scalar.string, .integer, .real, .boolean].find? fun kind => scalarName kind == name

/-- A name without brackets is built in or that of a class; only dynamic takes no mark. -/
def namedType? (name : String) (nullable : Bool) : Option TypeRef :=
  if name = "dynamic" then if nullable then none else some (.untyped false)
  else
    match scalarNamed? name with
    | some kind => some (.scalar kind nullable)
    | none => if Grammar.className.Legal name then some (.model name nullable) else none

theorem length_unmark_le (text : List Char) : (unmark text).1.length ≤ text.length := by
  unfold unmark
  split
  · rw [List.length_dropLast]
    exact Nat.sub_le text.length 1
  · exact Nat.le_refl _

theorem length_of_listElement? {text inside : List Char}
    (found : listElement? text = some inside) : inside.length < text.length := by
  unfold listElement? at found
  split at found
  next rest front =>
    rw [eq_append_of_afterWord? front, List.length_append]
    split at found
    next =>
      cases found
      rw [List.length_dropLast]
      have word : "List<".toList.length = 5 := by decide
      omega
    next => cases found
  next => cases found

/-- The type that a text spells. -/
def readType? (text : List Char) : Option TypeRef :=
  match found : listElement? (unmark text).1 with
  | some inside =>
      have : inside.length < text.length :=
        Nat.lt_of_lt_of_le (length_of_listElement? found) (length_unmark_le text)
      (readType? inside).map fun element => .listOf element (unmark text).2
  | none => namedType? (String.ofList (unmark text).1) (unmark text).2
termination_by text.length

theorem readType?_of_some {text inside : List Char}
    (list : listElement? (unmark text).1 = some inside) :
    readType? text = (readType? inside).map fun element => .listOf element (unmark text).2 := by
  rw [readType?]
  split
  next found =>
    rw [list] at found
    cases found
    rfl
  next found =>
    rw [list] at found
    cases found

theorem readType?_of_none {text : List Char} (noList : listElement? (unmark text).1 = none) :
    readType? text = namedType? (String.ofList (unmark text).1) (unmark text).2 := by
  rw [readType?]
  split
  next found =>
    rw [noList] at found
    cases found
  next => rfl

theorem unmark_markNullable (nullable : Bool) {name : String}
    (unmarked : name.toList.getLast? ≠ some '?') :
    unmark (markNullable nullable name).toList = (name.toList, nullable) := by
  cases nullable with
  | false => exact if_neg unmarked
  | true => simp [unmark, markNullable]

theorem listElement?_list (inside : List Char) :
    listElement? ("List<".toList ++ (inside ++ ['>'])) = some inside := by
  rw [listElement?, afterWord?_append]
  simp

theorem listElement?_of_notMem {text : List Char} (absent : '<' ∉ text) :
    listElement? text = none := by
  rw [listElement?, afterWord?_eq_none (by decide) absent]

/-- A name of identifier characters is read as a name, with its mark or without. -/
theorem readType?_name (nullable : Bool) {name : String}
    (identifier : name.toList.all isIdentifierChar = true) :
    readType? (markNullable nullable name).toList = namedType? name nullable := by
  have unmarked : name.toList.getLast? ≠ some '?' := fun last =>
    notMem_of_all identifier rfl (List.mem_of_getLast? last)
  have bracketless : '<' ∉ name.toList := notMem_of_all identifier rfl
  have parts := unmark_markNullable nullable unmarked
  rw [readType?_of_none (by rw [parts, listElement?_of_notMem bracketless]), parts,
    String.ofList_toList]

/-- A list is read by reading what stands between its brackets. -/
theorem readType?_list (nullable : Bool) (inside : String) :
    readType? (markNullable nullable ("List<" ++ inside ++ ">")).toList =
      (readType? inside.toList).map fun element => .listOf element nullable := by
  have shape : ("List<" ++ inside ++ ">").toList =
      "List<".toList ++ (inside.toList ++ ['>']) := by simp
  have unmarked : ("List<" ++ inside ++ ">").toList.getLast? ≠ some '?' := by
    rw [shape, ← List.append_assoc, List.getLast?_concat]
    decide
  have parts := unmark_markNullable nullable unmarked
  rw [readType?_of_some (by rw [parts, shape, listElement?_list]), parts]

theorem namedType?_scalarName (kind : Scalar) (nullable : Bool) :
    namedType? (scalarName kind) nullable = some (.scalar kind nullable) := by
  cases kind <;> rfl

/-- No legal class name is built in. -/
theorem namedType?_of_legal {name : String} (legal : Grammar.className.Legal name)
    (nullable : Bool) : namedType? name nullable = some (.model name nullable) := by
  have untyped : name ≠ "dynamic" := by
    rintro rfl
    exact absurd legal (by decide)
  have unbuilt : scalarNamed? name = none := by
    rw [scalarNamed?, List.find?_eq_none]
    intro kind _ same
    obtain rfl := beq_iff_eq.mp same
    revert legal
    cases kind <;> decide
  rw [namedType?, if_neg untyped, unbuilt]
  exact if_pos legal

/-- A regular type reads back if its classes have legal names. -/
theorem readType?_typeName {type : TypeRef} (regular : type.isRegular = true)
    (legal : ∀ name ∈ type.references, Grammar.className.Legal name) :
    readType? (typeName type).toList = some type := by
  induction type with
  | untyped nullable =>
      obtain rfl : nullable = false := by simpa [TypeRef.isRegular] using regular
      exact readType?_name false (by decide)
  | scalar kind nullable =>
      rw [typeName, readType?_name nullable (by cases kind <;> decide)]
      exact namedType?_scalarName kind nullable
  | model name nullable =>
      have own := legal name List.mem_cons_self
      rw [typeName, readType?_name nullable own.isIdentifierChar_className]
      exact namedType?_of_legal own nullable
  | list nullable => cases regular
  | listOf element nullable ih =>
      rw [typeName, readType?_list, ih regular legal]
      rfl

/-- Only a class is spelled like a class with a legal name. -/
theorem exists_model_of_typeName_eq {type : TypeRef} {name : String} {nullable : Bool}
    (legal : Grammar.className.Legal name)
    (same : typeName type = typeName (.model name nullable)) :
    ∃ other marked, type = .model other marked := by
  have own : readType? (typeName (.model name nullable)).toList = some (.model name nullable) :=
    readType?_typeName rfl fun other member => List.mem_singleton.mp member ▸ legal
  have bracketless : '<' ∉ (typeName (.model name nullable)).toList := by
    have identifier := legal.isIdentifierChar_className
    have absent : '<' ∉ name.toList := notMem_of_all identifier rfl
    cases nullable <;> simp [typeName, markNullable, absent]
  rw [← same] at own bracketless
  cases type with
  | untyped marked =>
      have read : readType? (typeName (.untyped marked)).toList = some (.untyped false) :=
        readType?_name false (by decide)
      rw [read] at own
      cases own
  | scalar kind marked =>
      rw [readType?_typeName rfl (List.forall_mem_nil _)] at own
      cases own
  | model other marked => exact ⟨other, marked, rfl⟩
  | list marked => cases marked <;> simp [typeName, markNullable] at bracketless
  | listOf element marked => cases marked <;> simp [typeName, markNullable] at bracketless

/-- Every type in an inferred file reads back from its spelling, so that no two types of inferred
files are spelled alike, and nothing but a class is spelled like a class of the file. -/
theorem typeName_unambiguous {file other : ModelFile} (inferred : file.IsInferred)
    (another : other.IsInferred) :
    (∀ type ∈ file.layers, readType? (typeName type).toList = some type) ∧
      (∀ type ∈ file.layers, ∀ second ∈ other.layers, typeName type = typeName second →
        type = second) ∧
      ∀ model ∈ file.models, ∀ nullable type, typeName type = typeName (.model model.name nullable) →
        ∃ name marked, type = .model name marked := by
  have back {source : ModelFile} (inferred : source.IsInferred) (type : TypeRef)
      (member : type ∈ source.layers) : readType? (typeName type).toList = some type := by
    obtain ⟨regular, legal⟩ := inferred.wellFormed_layer member
    exact readType?_typeName regular legal
  refine ⟨back inferred, ?_, ?_⟩
  · intro type member second inOther same
    have read := back inferred type member
    rw [same, back another second inOther] at read
    exact (Option.some.inj read).symm
  · intro model member nullable type same
    exact exists_model_of_typeName_eq (inferred.legal_className member) same

theorem isInferred_orderFile : orderFile.IsInferred :=
  ⟨orderConfig, orderOverrides, "item", "converter.dart", orderSample, infer_orderSample⟩

theorem typeName_unambiguous_orderFile :
    orderFile.IsInferred ∧
      TypeRef.listOf (.listOf (.untyped false) true) true ∈ orderFile.layers ∧
      readType? "List<List<dynamic>?>?".toList =
        some (.listOf (.listOf (.untyped false) true) true) := by
  have inferred := isInferred_orderFile
  have member : TypeRef.listOf (.listOf (.untyped false) true) true ∈ orderFile.layers := by decide
  obtain ⟨back, -, -⟩ := typeName_unambiguous inferred inferred
  exact ⟨inferred, member, back _ member⟩

end DartModels.Dart
