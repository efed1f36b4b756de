import DartModels.Options.Defaults
import DartModels.Options.OptionError

/-
Generation options.
-/

namespace DartModels.Options

open DartModels.Document

/-- What stands in the place of the configured defaults: they themselves, any other value, or
nothing. -/
inductive DefaultsSlot where
  | texts (defaults : Defaults)
  | other (value : Value)
  | missing

/-- The values stay as they were given; their users decide what they mean. A value may also take
the place of what writes the options out. -/
structure Config where
  makeNullable : Value
  useDefaultValues : Value
  defaults : DefaultsSlot
  maxDepth : Value
  writer? : Option Value

namespace Config

def standard : Config :=
  ⟨.boolean false, .boolean false, .texts Defaults.empty, .integer 100, none⟩

/-- The options that exactly these entries store; defaults are the only ones without a standard
value of their own. -/
def ofStore (entries : List (String × Value)) : Config where
  makeNullable := (entries.lookup "make_nullable").getD standard.makeNullable
  useDefaultValues := (entries.lookup "use_default_values").getD standard.useDefaultValues
  defaults := ((entries.lookup "defaults").map .other).getD .missing
  maxDepth := (entries.lookup "max_depth").getD standard.maxDepth
  writer? := entries.lookup "to_dict"

/-- Stores the configured defaults, which are a mapping. -/
def setDefaults (config : Config) : Value → Except OptionError Config
  | .mapping entries => do
      let defaults ← Defaults.ofEntries (Value.textEntries entries)
      return { config with defaults := .texts defaults }
  | value => .error (.defaultsNotMapping value.typeName)

/-- Exchanges everything that is stored for the entries of a mapping. -/
def exchangeStore : Value → Except OptionError Config
  | .mapping entries => .ok (ofStore (Value.textEntries entries))
  | value => .error (.storeRefused value.typeName)

/-- Stores a value under its key; an unknown key changes nothing. -/
def set (config : Config) (entry : String × Value) : Except OptionError Config :=
  match entry.1 with
  | "defaults" => config.setDefaults entry.2
  | "make_nullable" => .ok { config with makeNullable := entry.2 }
  | "use_default_values" => .ok { config with useDefaultValues := entry.2 }
  | "max_depth" => .ok { config with maxDepth := entry.2 }
  | "to_dict" => .ok { config with writer? := some entry.2 }
  | "__class__" => .error (.classRefused entry.2.typeName)
  | "__dict__" => exchangeStore entry.2
  | "__weakref__" => .error (.referenceRefused .config)
  | _ => .ok config

def ofEntries (entries : List (String × Value)) : Except OptionError Config :=
  entries.foldlM set standard

def ofValue : Value → Except OptionError Config
  | .mapping entries => ofEntries (Value.textEntries entries)
  | value => .error (.notMapping value.typeName)

/-- The configured defaults may be anything, but they may not be missing. -/
def checkDefaults (config : Config) : Except OptionError Unit :=
  match config.defaults with
  | .missing => .error .defaultsMissing
  | _ => .ok ()

/-- The entries of the configured defaults. -/
def defaultsEntries (config : Config) : Except OptionError (List (String × Value)) :=
  match config.defaults with
  | .texts defaults => defaults.entries
  | .other _ => .error .defaultsReplaced
  | .missing => .error .defaultsMissing

/-- The entries from which the same options can be made again. -/
def entries (config : Config) : Except OptionError (List (String × Value)) :=
  match config.writer? with
  | some value => .error (.writerReplaced value.typeName)
  | none => do
      let defaults ← config.defaultsEntries
      return [("make_nullable", config.makeNullable),
        ("use_default_values", config.useDefaultValues),
        ("defaults", .mapping (defaults.map fun entry => (.text entry.1, entry.2))),
        ("max_depth", config.maxDepth)]

end Config

end DartModels.Options
