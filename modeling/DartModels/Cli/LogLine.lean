import DartModels.Project.Event
import DartModels.Schema.Event

/-
Log lines for events.
-/

namespace DartModels.Cli

inductive Level where
  | debug
  | info
  | warning
  deriving DecidableEq, Repr

def Level.text : Level → String
  | .debug => "DEBUG"
  | .info => "INFO"
  | .warning => "WARNING"

structure LogLine where
  level : Level
  logger : String
  message : String
  deriving DecidableEq, Repr

namespace LogLine

/-- The loggers have one common root. -/
def loggerName (area : String) : String := "json_to_freezed." ++ area

def parserLogger : String := loggerName "pipeline.json_ast.parser"

def analyzerLogger : String := loggerName "pipeline.analyzer.analyzer"

def ofSchemaEvent : Schema.Event → LogLine
  | .documentTooDeep path =>
      ⟨.warning, parserLogger, "Maximum JSON depth exceeded at " ++ path.text⟩
  | .walkTooDeep path =>
      ⟨.warning, analyzerLogger, "Maximum JSON depth exceeded at " ++ path.text⟩
  | .modelOpened name path =>
      ⟨.debug, analyzerLogger, "Creating class " ++ name ++ " for " ++ path.text⟩
  | .elementResolved path index =>
      ⟨.debug, analyzerLogger,
        "Resolved element type of " ++ path.text ++ " from index " ++ toString index⟩
  | .inferred count rootName =>
      ⟨.debug, loggerName "pipeline.generator",
        "Inferred " ++ toString count ++ " classes for " ++ rootName⟩

def ofProjectEvent : Project.Event → LogLine
  | .converterCreated location =>
      ⟨.info, loggerName "project.flutter_project", "Created " ++ location.text⟩
  | .outputWritten location =>
      ⟨.info, loggerName "project.atomic_writer", "Wrote " ++ location.text⟩
  | .buildStarted root =>
      ⟨.info, loggerName "project.build_runner", "Running build_runner in " ++ root.text⟩

/-- Only warnings are shown unless the log is verbose. -/
def isShown (verbose : Bool) (line : LogLine) : Bool :=
  verbose || line.level == .warning

def text (line : LogLine) : String :=
  line.level.text ++ " " ++ line.logger ++ ": " ++ line.message ++ "\n"

end LogLine

end DartModels.Cli
