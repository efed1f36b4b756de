import Mathlib.Logic.Relation
import DartModels.Options.Override
import DartModels.Proofs.Options.Reserved

/-
Loading of options from a JSON object: what is taken from it, which changes of it make no
difference, and that options which are written out are loaded again.
-/

namespace DartModels.Options

open DartModels.Document

/-- The mapping that a JSON object is decoded to. -/
def objectValue (entries : List (String × Value)) : Value :=
  .mapping (entries.map fun entry => (.text entry.1, entry.2))

@[simp] theorem textEntries_object (entries : List (String × Value)) :
    Value.textEntries (entries.map fun entry => (.text entry.1, entry.2)) = entries := by
  rw [Value.textEntries, List.filterMap_map]
  exact List.filterMap_some

/-! Objects -/

/-- No key of a JSON object comes twice, and none of these has a meaning of its own for the record
that the object is loaded into. -/
structure IsPlain (attributes : List String) (entries : List (String × Value)) : Prop where
  distinct : (entries.map Prod.fst).Nodup
  free : ∀ key ∈ entries.map Prod.fst, key ∉ attributes

/-- One change of an object: its entries change places, or a key that is not known is new. -/
inductive Rearranged (known : List String) :
    List (String × Value) → List (String × Value) → Prop
  | permuted {first second : List (String × Value)} (same : first.Perm second) :
      Rearranged known first second
  | extended {entries : List (String × Value)} {key : String} (value : Value)
      (unknown : key ∉ known) (new : key ∉ entries.map Prod.fst) :
      Rearranged known entries ((key, value) :: entries)

section Objects

variable {known attributes : List String} {entries first second : List (String × Value)}
  {key : String} {value : Value}

theorem IsPlain.tail {entry : String × Value} (plain : IsPlain attributes (entry :: entries)) :
    IsPlain attributes entries :=
  ⟨(List.nodup_cons.mp plain.distinct).2, (List.forall_mem_cons.mp plain.free).2⟩

theorem IsPlain.of_perm (plain : IsPlain attributes first) (same : first.Perm second) :
    IsPlain attributes second where
  distinct := (same.map Prod.fst).nodup_iff.mp plain.distinct
  free key member := plain.free key ((same.map Prod.fst).mem_iff.mpr member)

theorem lookup_entry_cons (own key : String) (value : Value) (entries : List (String × Value)) :
    ((own, value) :: entries).lookup key =
      if own = key then some value else entries.lookup key := by
  by_cases same : own = key
  · simp [same]
  · simp [List.lookup_cons, beq_eq_false_iff_ne.mpr (Ne.symm same), same]

theorem lookup_eq_none_of_notMem (absent : key ∉ entries.map Prod.fst) :
    entries.lookup key = none := by
  rw [List.lookup_eq_none_iff]
  intro entry member
  rw [bne_iff_ne]
  rintro rfl
  exact absent (List.mem_map_of_mem member)

theorem IsPlain.lookup_tail {entry : String × Value}
    (plain : IsPlain attributes (entry :: entries)) : entries.lookup entry.1 = none :=
  lookup_eq_none_of_notMem (List.nodup_cons.mp plain.distinct).1

/-- An object has one value under each of its keys. -/
theorem IsPlain.lookup_eq_some_iff (plain : IsPlain attributes entries) :
    entries.lookup key = some value ↔ (key, value) ∈ entries := by
  induction entries with
  | nil => simp
  | cons entry entries ih =>
      obtain ⟨own, content⟩ := entry
      have absent : entries.lookup own = none := plain.lookup_tail
      rw [lookup_entry_cons]
      by_cases same : own = key
      · subst same
        have alone : (own, value) ∉ entries := by
          rw [← ih plain.tail, absent]
          exact Option.not_mem_none value
        simp [alone, eq_comm]
      · simp [same, Ne.symm same, ih plain.tail]

/-- A change keeps an object plain, in either direction. -/
theorem Rearranged.isPlain_iff (inside : attributes ⊆ known)
    (change : Rearranged known first second) :
    IsPlain attributes first ↔ IsPlain attributes second := by
  cases change with
  | permuted same => exact ⟨fun plain => plain.of_perm same, fun plain => plain.of_perm same.symm⟩
  | extended value unknown new =>
      refine ⟨fun plain => ⟨List.nodup_cons.mpr ⟨new, plain.distinct⟩, ?_⟩, IsPlain.tail⟩
      exact List.forall_mem_cons.mpr ⟨fun reserved => unknown (inside reserved), plain.free⟩

/-- It changes nothing under a key that is known. -/
theorem Rearranged.lookup_eq (change : Rearranged known first second)
    (plain : IsPlain attributes first) (member : key ∈ known) :
    first.lookup key = second.lookup key := by
  cases change with
  | permuted same =>
      apply Option.ext
      intro value
      rw [plain.lookup_eq_some_iff, (plain.of_perm same).lookup_eq_some_iff, same.mem_iff]
  | @extended new value unknown _ =>
      have other : new ≠ key := fun same => unknown (same ▸ member)
      rw [lookup_entry_cons, if_neg other]

end Objects

/-! Defaults -/

namespace Defaults

/-- Keys under which a text is no default. -/
def attributeKeys : List String := "__dataclass_fields__" :: reservedKeys

def keys : List String :=
  ["string_value", "int_value", "double_value", "bool_value", "list_value"]

/-- The text of what stands under a key; a null stands for nothing. -/
def givenText? (members : List (String × Value)) (key : String) : Option String :=
  (members.lookup key).bind Override.textOf

/-- The defaults with the texts that are given in the place of their own. -/
def updated (defaults : Defaults) (members : List (String × Value)) : Defaults where
  stringValue := (givenText? members "string_value").getD defaults.stringValue
  intValue := (givenText? members "int_value").getD defaults.intValue
  doubleValue := (givenText? members "double_value").getD defaults.doubleValue
  boolValue := (givenText? members "bool_value").getD defaults.boolValue
  listValue := (givenText? members "list_value").getD defaults.listValue
  fieldList? := defaults.fieldList?

theorem setValue_eq (defaults : Defaults) (key : String) (value : Value) :
    defaults.setValue (key, value) =
      match Override.textOf value with
      | none => .ok defaults
      | some text => defaults.set key text := by
  cases value <;> rfl

theorem givenText?_cons (members : List (String × Value)) (own key : String) (value : Value) :
    givenText? ((own, value) :: members) key =
      if own = key then Override.textOf value else givenText? members key := by
  rw [givenText?, lookup_entry_cons]
  split <;> rfl

/-- What is stored from an entry stays, since no later one has its key. -/
theorem updated_cons {members : List (String × Value)} {entry : String × Value}
    (plain : IsPlain attributeKeys (entry :: members)) (defaults : Defaults) :
    ∃ stored, defaults.setValue entry = .ok stored ∧
      stored.updated members = defaults.updated (entry :: members) := by
  obtain ⟨key, value⟩ := entry
  have free : key ∉ attributeKeys := plain.free key List.mem_cons_self
  have absent : givenText? members key = none := by
    rw [givenText?, plain.lookup_tail]
    rfl
  rw [setValue_eq]
  cases text : Override.textOf value with
  | none =>
      have given : givenText? ((key, value) :: members) = givenText? members := by
        funext other
        rw [givenText?_cons, text]
        split
        next same => rw [← same, absent]
        next => rfl
      exact ⟨defaults, rfl, by simp only [updated, given]⟩
  | some text =>
      dsimp only
      unfold set
      split
      case h_6 | h_7 | h_8 | h_9 => exact absurd (by decide) free
      all_goals
        refine ⟨_, rfl, ?_⟩
        simp_all [updated, givenText?_cons]

theorem ofEntries_eq {members : List (String × Value)} (plain : IsPlain attributeKeys members) :
    ofEntries members = .ok (empty.updated members) := by
  suffices ∀ defaults : Defaults, members.foldlM setValue defaults = .ok (defaults.updated members)
    from this empty
  induction members with
  | nil => exact fun _ => rfl
  | cons entry members ih =>
      intro defaults
      obtain ⟨stored, ok, same⟩ := updated_cons plain defaults
      rw [List.foldlM_cons, ok, ← same]
      exact ih plain.tail stored

/-- The texts under the keys that are known decide what is loaded. -/
theorem ofEntries_eq_of_rearranged {first second : List (String × Value)}
    (change : Rearranged (keys ++ attributeKeys) first second)
    (plain : IsPlain attributeKeys first) : ofEntries first = ofEntries second := by
  have plainToo := (change.isPlain_iff (List.subset_append_right _ _)).mp plain
  have given : ∀ key ∈ keys, givenText? first key = givenText? second key := fun key member => by
    rw [givenText?, change.lookup_eq plain (List.mem_append_left _ member), givenText?]
  simp only [keys, List.forall_mem_cons, List.not_mem_nil, false_implies, implies_true,
    and_true] at given
  obtain ⟨text, integer, double, boolean, list⟩ := given
  rw [ofEntries_eq plain, ofEntries_eq plainToo, updated, text, integer, double, boolean, list,
    updated]

end Defaults

/-! Options -/

namespace Config

/-- Keys under which a value is no option. -/
def attributeKeys : List String := "to_dict" :: reservedKeys

def keys : List String := ["make_nullable", "use_default_values", "defaults", "max_depth"]

/-- An object that options can be loaded from: it is plain, and so are the defaults in it. -/
structure IsLoadable (entries : List (String × Value)) : Prop where
  options : IsPlain attributeKeys entries
  defaults : ∀ inner, ("defaults", .mapping inner) ∈ entries →
    IsPlain Defaults.attributeKeys (Value.textEntries inner)

/-- One change of an object, or of the defaults in it. -/
inductive Change : List (String × Value) → List (String × Value) → Prop
  | options {first second : List (String × Value)}
      (change : Rearranged (keys ++ attributeKeys) first second) : Change first second
  | defaults {before after first second : List (String × Value)}
      (change : Rearranged (Defaults.keys ++ Defaults.attributeKeys) first second) :
      Change (before ++ ("defaults", objectValue first) :: after)
        (before ++ ("defaults", objectValue second) :: after)

/-- The config with the values that are given in the place of its own, and with these defaults. -/
def updated (config : Config) (entries : List (String × Value)) (defaults : DefaultsSlot) :
    Config where
  makeNullable := (entries.lookup "make_nullable").getD config.makeNullable
  useDefaultValues := (entries.lookup "use_default_values").getD config.useDefaultValues
  defaults := defaults
  maxDepth := (entries.lookup "max_depth").getD config.maxDepth
  writer? := config.writer?

/-- The members of the defaults in an object. -/
def defaultsIn (entries : List (String × Value)) : List (String × Value) :=
  match entries.lookup "defaults" with
  | some (.mapping inner) => Value.textEntries inner
  | _ => []

/-- What comes in the place of the defaults: those under their key, if anything is there. -/
def givenDefaults (config : Config) (entries : List (String × Value)) :
    Except OptionError DefaultsSlot :=
  match entries.lookup "defaults" with
  | none => .ok config.defaults
  | some (.mapping inner) => .ok (.texts (Defaults.empty.updated (Value.textEntries inner)))
  | some value => .error (.defaultsNotMapping value.typeName)

def loaded (config : Config) (entries : List (String × Value)) : Except OptionError Config :=
  (config.givenDefaults entries).map (config.updated entries)

section Loading

variable {entries : List (String × Value)} {entry : String × Value}

theorem IsLoadable.tail (loadable : IsLoadable (entry :: entries)) : IsLoadable entries :=
  ⟨loadable.options.tail, fun inner member =>
    loadable.defaults inner (List.mem_cons_of_mem entry member)⟩

/-- What an entry stores is given by it, since no later one has its key. -/
theorem set_ordinary {key : String} {value : Value}
    (loadable : IsLoadable ((key, value) :: entries)) (ordinary : key ≠ "defaults")
    (config : Config) :
    ∃ stored, config.set (key, value) = .ok stored ∧
      stored.loaded entries = config.loaded ((key, value) :: entries) := by
  have free : key ∉ attributeKeys := loadable.options.free key List.mem_cons_self
  have absent : entries.lookup key = none := loadable.options.lookup_tail
  suffices ∃ stored, config.set (key, value) = .ok stored ∧ stored.defaults = config.defaults ∧
      stored.updated entries = config.updated ((key, value) :: entries) by
    obtain ⟨stored, ok, kept, same⟩ := this
    refine ⟨stored, ok, ?_⟩
    rw [loaded, loaded, givenDefaults, givenDefaults, lookup_entry_cons, if_neg ordinary, kept,
      same]
  unfold set
  dsimp only
  split
  case h_1 => exact absurd rfl ordinary
  case h_5 | h_6 | h_7 | h_8 => exact absurd (by decide) free
  case h_9 =>
    refine ⟨config, rfl, rfl, ?_⟩
    funext slot
    simp_all [updated, lookup_entry_cons]
  all_goals
    refine ⟨_, rfl, rfl, ?_⟩
    funext slot
    simp [updated, lookup_entry_cons, absent]

/-- Defaults that are a mapping are loaded, and nothing else is. -/
theorem set_defaults {value : Value} (loadable : IsLoadable (("defaults", value) :: entries))
    (config : Config) :
    (config.set ("defaults", value) >>= fun stored => stored.loaded entries) =
      config.loaded (("defaults", value) :: entries) := by
  have absent : entries.lookup "defaults" = none := loadable.options.lookup_tail
  cases value with
  | mapping inner =>
      let stored : Config := { config with
        defaults := .texts (Defaults.empty.updated (Value.textEntries inner)) }
      have ok : config.set ("defaults", .mapping inner) = .ok stored := by
        change config.setDefaults (.mapping inner) = _
        rw [setDefaults, Defaults.ofEntries_eq (loadable.defaults inner List.mem_cons_self)]
        rfl
      have given : stored.givenDefaults entries =
          config.givenDefaults (("defaults", .mapping inner) :: entries) := by
        rw [givenDefaults, absent, givenDefaults, lookup_entry_cons, if_pos rfl]
      have same : stored.updated entries =
          config.updated (("defaults", .mapping inner) :: entries) := by
        funext slot
        simp [updated, lookup_entry_cons, stored]
      rw [ok, loaded, ← given, ← same]
      rfl
  | _ =>
      rw [loaded, givenDefaults, lookup_entry_cons, if_pos rfl]
      rfl

theorem foldlM_set (loadable : IsLoadable entries) (config : Config) :
    entries.foldlM set config = config.loaded entries := by
  induction entries generalizing config with
  | nil => rfl
  | cons entry entries ih =>
      obtain ⟨key, value⟩ := entry
      rw [List.foldlM_cons]
      by_cases given : key = "defaults"
      · subst given
        rw [← set_defaults loadable config]
        exact congrArg _ (funext (ih loadable.tail))
      · obtain ⟨stored, ok, same⟩ := set_ordinary loadable given config
        rw [ok, ← same]
        exact ih loadable.tail stored

theorem ofEntries_eq (loadable : IsLoadable entries) :
    ofEntries entries = standard.loaded entries :=
  foldlM_set loadable standard

/-- Loading is refused for defaults that are no object, and for nothing else. -/
theorem ofEntries_eq_error_iff (loadable : IsLoadable entries) {error : OptionError} :
    ofEntries entries = .error error ↔
      ∃ value, ("defaults", value) ∈ entries ∧ (∀ inner, value ≠ .mapping inner) ∧
        error = .defaultsNotMapping value.typeName := by
  simp only [← loadable.options.lookup_eq_some_iff]
  rw [ofEntries_eq loadable, loaded, givenDefaults]
  cases entries.lookup "defaults" with
  | none => simp [Except.map]
  | some value => cases value <;> simp [Except.map, eq_comm]

/-- A config that is loaded has what is given in the place of the standard options. -/
theorem ofEntries_eq_ok (loadable : IsLoadable entries) {config : Config}
    (ok : ofEntries entries = .ok config) :
    config = standard.updated entries (.texts (Defaults.empty.updated (defaultsIn entries))) := by
  rw [ofEntries_eq loadable, loaded, givenDefaults] at ok
  rw [defaultsIn]
  cases found : entries.lookup "defaults" with
  | none =>
      rw [found] at ok
      exact (Except.ok.inj ok).symm
  | some value =>
      rw [found] at ok
      cases value with
      | mapping inner => exact (Except.ok.inj ok).symm
      | _ => cases ok

/-- A config with texts for its defaults is loaded from what is written for it. -/
theorem ofValue_written {config : Config} {defaults : Defaults}
    (texts : config.defaults = .texts defaults) (unreplaced : defaults.fieldList? = none)
    (own : config.writer? = none) :
    ∃ written, config.entries = .ok written ∧ ofValue (objectValue written) = .ok config := by
  obtain ⟨makeNullable, useDefaultValues, slot, maxDepth, writer?⟩ := config
  obtain ⟨text, integer, double, boolean, list, fieldList?⟩ := defaults
  cases texts
  cases unreplaced
  cases own
  exact ⟨_, rfl, rfl⟩

end Loading

/-! Changes of objects -/

section Changes

variable {before after first second : List (String × Value)}

/-- Other plain defaults may come in the place of the ones in an object. -/
theorem IsLoadable.exchange
    (loadable : IsLoadable (before ++ ("defaults", objectValue first) :: after))
    (plain : IsPlain Defaults.attributeKeys second) :
    IsLoadable (before ++ ("defaults", objectValue second) :: after) where
  options := ⟨by simpa using loadable.options.distinct, by simpa using loadable.options.free⟩
  defaults inner member := by
    rcases List.mem_append.mp member with earlier | here
    · exact loadable.defaults inner (List.mem_append_left _ earlier)
    · rcases List.mem_cons.mp here with same | later
      · cases same
        rw [textEntries_object]
        exact plain
      · exact loadable.defaults inner (List.mem_append_right _ (List.mem_cons_of_mem _ later))

theorem IsLoadable.plainDefaults
    (loadable : IsLoadable (before ++ ("defaults", objectValue first) :: after)) :
    IsPlain Defaults.attributeKeys first := by
  have plain := loadable.defaults _ (List.mem_append_right before List.mem_cons_self)
  rwa [textEntries_object] at plain

theorem Change.isLoadable_iff (change : Change first second) :
    IsLoadable first ↔ IsLoadable second := by
  cases change with
  | options change =>
      have plain := change.isPlain_iff (List.subset_append_right _ attributeKeys)
      have same (inner : List (Value × Value)) :
          ("defaults", .mapping inner) ∈ first ↔ ("defaults", .mapping inner) ∈ second := by
        cases change with
        | permuted same => exact same.mem_iff
        | @extended key value unknown new =>
            have other : "defaults" ≠ key := by
              rintro rfl
              exact unknown (by decide)
            simp [other]
      exact ⟨fun loadable => ⟨plain.mp loadable.options, fun inner member =>
          loadable.defaults inner ((same inner).mpr member)⟩,
        fun loadable => ⟨plain.mpr loadable.options, fun inner member =>
          loadable.defaults inner ((same inner).mp member)⟩⟩
  | defaults change =>
      have plain := change.isPlain_iff (List.subset_append_right _ Defaults.attributeKeys)
      exact ⟨fun loadable => loadable.exchange (plain.mp loadable.plainDefaults),
        fun loadable => loadable.exchange (plain.mpr loadable.plainDefaults)⟩

/-- A change makes no difference to what is loaded. -/
theorem Change.ofEntries_eq (change : Change first second) (loadable : IsLoadable first) :
    ofEntries first = ofEntries second := by
  have loadableToo := change.isLoadable_iff.mp loadable
  cases change with
  | options change =>
      have under : ∀ key ∈ keys, first.lookup key = second.lookup key := fun key member =>
        change.lookup_eq loadable.options (List.mem_append_left _ member)
      simp only [keys, List.forall_mem_cons, List.not_mem_nil, false_implies, implies_true,
        and_true] at under
      obtain ⟨nullable, useDefaults, defaults, depth⟩ := under
      have same : standard.updated first = standard.updated second := by
        funext slot
        rw [updated, nullable, useDefaults, depth, updated]
      rw [Config.ofEntries_eq loadable, Config.ofEntries_eq loadableToo, loaded, loaded,
        givenDefaults, givenDefaults, defaults, same]
  | @defaults before after one other change =>
      have same (config : Config) : config.set ("defaults", objectValue one) =
          config.set ("defaults", objectValue other) := by
        change config.setDefaults (objectValue one) = config.setDefaults (objectValue other)
        rw [objectValue, setDefaults, textEntries_object, objectValue, setDefaults,
          textEntries_object, Defaults.ofEntries_eq_of_rearranged change loadable.plainDefaults]
      simp only [ofEntries, List.foldlM_append, List.foldlM_cons, same]

/-- Neither do any number of changes in either direction. -/
theorem ofEntries_eq_of_changes (changes : Relation.EqvGen Change first second) :
    (IsLoadable first ↔ IsLoadable second) ∧
      (IsLoadable first → ofEntries first = ofEntries second) := by
  induction changes with
  | rel _ _ change => exact ⟨change.isLoadable_iff, change.ofEntries_eq⟩
  | refl _ => exact ⟨Iff.rfl, fun _ => rfl⟩
  | symm _ _ _ ih => exact ⟨ih.1.symm, fun loadable => (ih.2 (ih.1.mpr loadable)).symm⟩
  | trans _ _ _ _ _ first second =>
      exact ⟨first.1.trans second.1, fun loadable =>
        (first.2 loadable).trans (second.2 (first.1.mp loadable))⟩

theorem ofValue_object (entries : List (String × Value)) :
    ofValue (objectValue entries) = ofEntries entries := by
  rw [objectValue, ofValue, textEntries_object]

/-- Loading from an object is refused exactly for defaults that are no object. Otherwise the config
has what the object gives in the place of the standard options, with the texts of its defaults; it
is loaded again from what is written for it, and no order of entries and no unknown key makes it
another one. -/
theorem ofValue_loads {entries : List (String × Value)} (loadable : IsLoadable entries) :
    (∀ error, ofValue (objectValue entries) = .error error ↔
        ∃ value, ("defaults", value) ∈ entries ∧ (∀ inner, value ≠ .mapping inner) ∧
          error = .defaultsNotMapping value.typeName) ∧
      ∀ config, ofValue (objectValue entries) = .ok config →
        (∃ written, config.entries = .ok written ∧
          ofValue (objectValue written) = .ok config) ∧
        (∀ other, Relation.EqvGen Change entries other →
          ofValue (objectValue other) = .ok config) ∧
        config =
          standard.updated entries (.texts (Defaults.empty.updated (defaultsIn entries))) := by
  simp only [ofValue_object]
  refine ⟨fun error => ofEntries_eq_error_iff loadable, fun config ok => ?_⟩
  have same := ofEntries_eq_ok loadable ok
  refine ⟨?_, fun other changes => ?_, same⟩
  · rw [same]
    simpa only [ofValue_object] using ofValue_written rfl rfl rfl
  · rw [← (ofEntries_eq_of_changes changes).2 loadable]
    exact ok

end Changes

/-- Options with keys that are not known, and defaults that are no texts. -/
def mixedOptions : List (String × Value) :=
  [("theme", .null), ("max_depth", .text "deep"),
    ("defaults", objectValue [("list_value", .list [.null, .boolean true]), ("color", .integer 3),
      ("string_value", .null), ("bool_value", .text "")])]

def mixedConfig : Config :=
  ⟨.boolean false, .boolean false, .texts ⟨"", "", "", "", "[None, True]", none⟩, .text "deep",
    none⟩

/-- The options are the same from the last entry to the first. -/
theorem ofValue_loads_mixedOptions :
    IsLoadable mixedOptions ∧ ofValue (objectValue mixedOptions) = .ok mixedConfig ∧
      ofValue (objectValue mixedOptions.reverse) = .ok mixedConfig := by
  have loadable : IsLoadable mixedOptions := by
    refine ⟨⟨by decide, by decide⟩, fun inner member => ?_⟩
    have given : inner = [("list_value", .list [.null, .boolean true]), ("color", .integer 3),
        ("string_value", .null), ("bool_value", .text "")].map fun entry =>
          (.text entry.1, entry.2) := by
      simpa [mixedOptions, objectValue] using member
    rw [given, textEntries_object]
    exact ⟨by decide, by decide⟩
  have ok : ofValue (objectValue mixedOptions) = .ok mixedConfig := by rfl
  refine ⟨loadable, ok, ((ofValue_loads loadable).2 _ ok).2.1 _ ?_⟩
  exact .rel _ _ (.options (.permuted (List.reverse_perm _).symm))

end Config

end DartModels.Options
