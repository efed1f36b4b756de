/-
Command line arguments.
-/

namespace DartModels.Cli

/-- Options with a value. -/
inductive ValueOption where
  | name
  | config
  | overrides
  deriving DecidableEq, Repr

/-- Options without a value; two of them can be taken back. -/
inductive Flag where
  | nullable
  | defaults
  | entitySuffix (on : Bool)
  | force
  | buildRunner (on : Bool)
  | verbose
  deriving DecidableEq, Repr

inductive AnyOption where
  | value (option : ValueOption)
  | flag (flag : Flag)
  deriving DecidableEq, Repr

/-- What the options ask for; files are looked for in the order in which their options come. -/
structure Settings where
  name : Option String
  config : Option String
  overrides : Option String
  nullable : Bool
  defaults : Bool
  entitySuffix : Bool
  force : Bool
  buildRunner : Bool
  verbose : Bool
  overridesFirst : Bool
  deriving DecidableEq, Repr

namespace Settings

def standard : Settings :=
  ⟨none, none, none, false, false, true, false, false, false, false⟩

/-- The last value of an option counts. -/
def setValue (settings : Settings) (option : ValueOption) (value : String) : Settings :=
  match option with
  | .name => { settings with name := some value }
  | .config => { settings with config := some value }
  | .overrides =>
      { settings with
        overrides := some value
        overridesFirst := settings.overridesFirst || settings.config.isNone }

def setFlag (settings : Settings) : Flag → Settings
  | .nullable => { settings with nullable := true }
  | .defaults => { settings with defaults := true }
  | .entitySuffix on => { settings with entitySuffix := on }
  | .force => { settings with force := true }
  | .buildRunner on => { settings with buildRunner := on }
  | .verbose => { settings with verbose := true }

end Settings

def longOption? : String → Option AnyOption
  | "--name" => some (.value .name)
  | "--config" => some (.value .config)
  | "--overrides" => some (.value .overrides)
  | "--nullable" => some (.flag .nullable)
  | "--defaults" => some (.flag .defaults)
  | "--entity-suffix" => some (.flag (.entitySuffix true))
  | "--no-entity-suffix" => some (.flag (.entitySuffix false))
  | "--force" => some (.flag .force)
  | "--build-runner" => some (.flag (.buildRunner true))
  | "--no-build-runner" => some (.flag (.buildRunner false))
  | "--verbose" => some (.flag .verbose)
  | _ => none

def shortOption? : Char → Option AnyOption
  | 'n' => some (.value .name)
  | 'c' => some (.value .config)
  | 'v' => some (.flag .verbose)
  | _ => none

/-- The arguments read so far; the operands are all that are no options. -/
structure Draft where
  settings : Settings
  operands : List String

def Draft.empty : Draft := ⟨Settings.standard, []⟩

def Draft.setValue (draft : Draft) (option : ValueOption) (value : String) : Draft :=
  { draft with settings := draft.settings.setValue option value }

def Draft.setFlag (draft : Draft) (flag : Flag) : Draft :=
  { draft with settings := draft.settings.setFlag flag }

def Draft.addOperands (draft : Draft) (operands : List String) : Draft :=
  { draft with operands := draft.operands ++ operands }

/-- After an argument the draft is complete, or an option waits for its value. -/
inductive Progress where
  | complete (draft : Draft)
  | waiting (option : ValueOption) (draft : Draft)

/-- Reads the letters after one hyphen; a value takes the letters that are left. -/
def readShort (draft : Draft) : List Char → Option Progress
  | [] => some (.complete draft)
  | letter :: rest =>
      match shortOption? letter with
      | none => none
      | some (.flag flag) => readShort (draft.setFlag flag) rest
      | some (.value option) =>
          if rest.isEmpty then some (.waiting option draft)
          else some (.complete (draft.setValue option (String.ofList rest)))

/-- Reads an argument with two hyphens; a value may follow an equals sign. -/
def readLong (draft : Draft) (argument : List Char) : Option Progress :=
  let word := argument.takeWhile (· != '=')
  let given := argument.drop (word.length + 1)
  let hasValue := word.length < argument.length
  match longOption? (String.ofList word) with
  | none => none
  | some (.flag flag) => if hasValue then none else some (.complete (draft.setFlag flag))
  | some (.value option) =>
      if hasValue then some (.complete (draft.setValue option (String.ofList given)))
      else some (.waiting option draft)

def readArgument (draft : Draft) (argument : String) : Option Progress :=
  match argument.toList with
  | '-' :: '-' :: rest => readLong draft ('-' :: '-' :: rest)
  | '-' :: letter :: rest => readShort draft (letter :: rest)
  | _ => some (.complete (draft.addOperands [argument]))

/-- Two hyphens alone end the options. -/
def readArguments (draft : Draft) : List String → Option Draft
  | [] => some draft
  | argument :: rest =>
      if argument = "--" then some (draft.addOperands rest)
      else
        match readArgument draft argument with
        | none => none
        | some (.complete draft) => readArguments draft rest
        | some (.waiting option draft) =>
            match rest with
            | [] => none
            | value :: rest => readArguments (draft.setValue option value) rest

/-- The command takes a document and a directory for the output. -/
structure Request where
  settings : Settings
  document : Option String
  outputDirectory : Option String
  surplus : List String
  deriving DecidableEq, Repr

def Request.ofDraft (draft : Draft) : Request :=
  ⟨draft.settings, draft.operands[0]?, draft.operands[1]?, draft.operands.drop 2⟩

def Request.ofArguments (arguments : List String) : Option Request :=
  (readArguments Draft.empty arguments).map Request.ofDraft

end DartModels.Cli
