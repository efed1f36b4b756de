import DartModels.Dart.Source
import DartModels.Proofs.Schema.Naming
import DartModels.Proofs.Schema.ReferenceTree

/-
The top-level symbols of the classes in a file, and which of them meet.
-/

namespace DartModels.Dart

open DartModels.Document
open DartModels.Name
open DartModels.Options
open DartModels.Schema

/-- What stands for a class at the top level of its library: the class itself, the class that its
constructor redirects to, its mixin, and the function that reads it. -/
inductive Role where
  | declaration
  | implementation
  | mixin
  | reader
  deriving DecidableEq, Repr

namespace Role

def start : Role → String
  | .declaration => ""
  | .implementation => "_"
  | .mixin => "_$"
  | .reader => "_$"

def finish : Role → String
  | .reader => "FromJson"
  | _ => ""

/-- The symbol of the class with the name. -/
def symbol (role : Role) (name : String) : String := role.start ++ name ++ role.finish

end Role

/-- A class uses no other symbols at the top level. -/
theorem modelLines_eq_symbols (model : Model) :
    modelLines model =
      ["@Freezed(fromJson: true, toJson: true)",
        "abstract class " ++ Role.declaration.symbol model.name ++ " with " ++
          Role.mixin.symbol model.name ++ " \x7b",
        "  const factory " ++ Role.declaration.symbol model.name ++ "(\x7b"] ++
      model.fields.flatMap fieldLines ++
      ["  \x7d) = " ++ Role.implementation.symbol model.name ++ ";", "",
        "  factory " ++ Role.declaration.symbol model.name ++
          ".fromJson(Map<String, dynamic> json) => " ++ Role.reader.symbol model.name ++
          "(json);",
        "\x7d"] := by
  have head : " with _$" = " with " ++ "_$" := rfl
  have close : "  \x7d) = _" = "  \x7d) = " ++ "_" := rfl
  have arrow : ".fromJson(Map<String, dynamic> json) => _$" =
    ".fromJson(Map<String, dynamic> json) => " ++ "_$" := rfl
  have call : "FromJson(json);" = "FromJson" ++ "(json);" := rfl
  rw [modelLines, head, close, arrow, call]
  simp only [Role.symbol, Role.start, Role.finish, String.empty_append, String.append_empty,
    String.append_assoc]

/-- What is before a name in a symbol ends where the first capital stands. -/
theorem takeWhile_symbol (role : Role) {name : String} (legal : Grammar.className.Legal name) :
    (role.symbol name).toList.takeWhile (fun c => !c.isUpper) = role.start.toList := by
  have spelled := legal.spelled
  cases chars : name.toList with
  | nil =>
      rw [chars] at spelled
      cases spelled
  | cons first rest =>
      rw [chars, Grammar.spells, Bool.and_eq_true] at spelled
      have upper : first.isUpper = true := spelled.1
      have small : (role.start.toList.all fun c => !c.isUpper) = true := by
        cases role <;> decide
      rw [Role.symbol, String.toList_append, String.toList_append, chars, List.append_assoc,
        List.takeWhile_append_of_pos (List.all_eq_true.mp small), List.cons_append,
        List.takeWhile_cons, upper, Bool.not_true, if_neg Bool.false_ne_true, List.append_nil]

/-- The reader of a class meets the mixin of the class that has the end of the reader in its own
name. -/
inductive Clash : Role → String → Role → String → Prop
  | reader (name : String) : Clash .reader name .mixin (name ++ Role.reader.finish)
  | mixin (name : String) : Clash .mixin (name ++ Role.reader.finish) .reader name

variable {role other : Role} {first second : String}

theorem Clash.symbol_eq (clash : Clash role first other second) :
    role.symbol first = other.symbol second := by
  cases clash <;> simp [Role.symbol, Role.start, Role.finish, String.append_assoc]

/-- Equal symbols have equal starts, so they belong to one role or to a clash. -/
theorem symbol_eq_symbol_iff (legal : Grammar.className.Legal first)
    (legalToo : Grammar.className.Legal second) :
    role.symbol first = other.symbol second ↔
      role = other ∧ first = second ∨ Clash role first other second := by
  constructor
  · intro same
    have starts := congrArg (fun text => (String.toList text).takeWhile fun c => !c.isUpper) same
    simp only [takeWhile_symbol _ legal, takeWhile_symbol _ legalToo, String.toList_inj] at starts
    rw [Role.symbol, Role.symbol, starts, String.append_assoc, String.append_assoc,
      String.append_right_inj] at same
    cases role <;> cases other
    case reader.mixin =>
      rw [show Role.mixin.finish = "" from rfl, String.append_empty] at same
      exact .inr (same ▸ .reader first)
    case mixin.reader =>
      rw [show Role.mixin.finish = "" from rfl, String.append_empty] at same
      exact .inr (same ▸ .mixin second)
    case declaration.declaration | implementation.implementation | mixin.mixin | reader.reader =>
      exact .inl ⟨rfl, (String.append_left_inj _).mp same⟩
    all_goals exact absurd starts (by decide)
  · rintro (⟨rfl, rfl⟩ | clash)
    · rfl
    · exact clash.symbol_eq

/-- No symbol stands for two classes or in two roles. -/
def SymbolsDistinct (models : List Model) : Prop :=
  ∀ index later first second, NamedAt models index first → NamedAt models later second →
    ∀ role other : Role, role.symbol first = other.symbol second → index = later ∧ role = other

theorem exists_namedAt {models : List Model} {model : Model} (member : model ∈ models) :
    ∃ index, NamedAt models index model.name :=
  List.mem_iff_getElem?.mp (List.mem_map_of_mem member)

theorem exists_model_of_namedAt {models : List Model} {index : Nat} {name : String}
    (named : NamedAt models index name) : ∃ model ∈ models, model.name = name :=
  List.mem_map.mp (List.mem_of_getElem? named)

/-- Symbols of inferred classes meet in clashes alone, so they are distinct unless a class is named
like another one with the end of a reader. -/
theorem infer_symbols_meet {config : Config} {overrides : List Override}
    {rootName converterImport : String} {root : Node} {file : ModelFile}
    (inferred : (infer config overrides rootName converterImport root).result = .ok file) :
    (∀ index later first second,
      NamedAt file.models index first → NamedAt file.models later second →
        ∀ role other : Role, role.symbol first = other.symbol second ↔
          index = later ∧ role = other ∨ Clash role first other second) ∧
      (SymbolsDistinct file.models ↔
        ∀ first ∈ file.models, ∀ second ∈ file.models,
          second.name ≠ first.name ++ "FromJson") := by
  have named := infer_legallyNamed inferred
  have legal {index : Nat} {name : String} (at_ : NamedAt file.models index name) :
      Grammar.className.Legal name := by
    obtain ⟨model, member, rfl⟩ := exists_model_of_namedAt at_
    exact (named.models model member).className
  have meet : ∀ index later first second,
      NamedAt file.models index first → NamedAt file.models later second →
        ∀ role other : Role, role.symbol first = other.symbol second ↔
          index = later ∧ role = other ∨ Clash role first other second := by
    intro index later first second firstAt secondAt role other
    rw [symbol_eq_symbol_iff (legal firstAt) (legal secondAt)]
    refine or_congr_left ⟨fun ⟨sameRole, same⟩ => ⟨?_, sameRole⟩, fun ⟨sameIndex, sameRole⟩ => ?_⟩
    · exact NamedAt.index_eq named.distinct secondAt (same ▸ firstAt)
    · subst sameIndex
      exact ⟨sameRole, Option.some.inj (firstAt.symm.trans secondAt)⟩
  refine ⟨meet, fun distinct first firstIn second secondIn same => ?_, fun apart => ?_⟩
  · obtain ⟨index, firstAt⟩ := exists_namedAt firstIn
    obtain ⟨later, secondAt⟩ := exists_namedAt secondIn
    rw [same] at secondAt
    have roles := (distinct index later _ _ firstAt secondAt .reader .mixin
      (Clash.reader first.name).symbol_eq).2
    cases roles
  · intro index later first second firstAt secondAt role other same
    obtain ⟨model, member, own⟩ := exists_model_of_namedAt firstAt
    obtain ⟨twin, twinIn, its⟩ := exists_model_of_namedAt secondAt
    rcases (meet index later first second firstAt secondAt role other).mp same with both | clash
    · exact both
    · cases clash with
      | reader =>
          exact absurd (own ▸ its) (apart model member twin twinIn)
      | mixin =>
          exact absurd (its ▸ own) (apart twin twinIn model member)

theorem infer_symbols_meet_orderSample :
    (infer orderConfig orderOverrides "item" "converter.dart" orderSample).result =
        .ok orderFile ∧ SymbolsDistinct orderFile.models := by
  have meet := infer_symbols_meet infer_orderSample
  exact ⟨infer_orderSample, meet.2.mpr (by decide)⟩

/-- A user whose key asks for a class with the name of the user's reader. -/
def readerSample : Node := .object [("user_from_json", .object [("id", .integer 1)])]

def readerFile : ModelFile where
  rootName := "User"
  converterImport := "converter.dart"
  models :=
    [⟨"User", "User", [⟨"userFromJson", "user_from_json", .model "UserFromJson" false, none⟩]⟩,
      ⟨"UserFromJson", "user_from_json", [⟨"id", "id", .scalar .integer false, none⟩]⟩]

/-- The reader of `User` and the mixin of `UserFromJson` are both `_$UserFromJson`. -/
theorem reader_meets_mixin :
    (infer .standard [] "User" "converter.dart" readerSample).result = .ok readerFile ∧
      Role.reader.symbol "User" = "_$UserFromJson" ∧
      Role.mixin.symbol "UserFromJson" = "_$UserFromJson" ∧
      ¬SymbolsDistinct readerFile.models := by
  refine ⟨rfl, rfl, rfl, fun distinct => ?_⟩
  have both := distinct 0 1 "User" "UserFromJson" rfl rfl .reader .mixin rfl
  cases both.2

end DartModels.Dart
