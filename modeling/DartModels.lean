import DartModels.Cli.Arguments
import DartModels.Cli.Footprint
import DartModels.Cli.Job
import DartModels.Cli.LogLine
import DartModels.Cli.Run
import DartModels.Cli.RunError
import DartModels.Dart.ConverterModule
import DartModels.Dart.Source
import DartModels.Dart.StringLiteral
import DartModels.Dart.Structure
import DartModels.Dart.TypeName
import DartModels.Document.Classify
import DartModels.Document.DepthLimit
import DartModels.Document.Fault
import DartModels.Document.Node
import DartModels.Document.Path
import DartModels.Document.Reader
import DartModels.Document.Refusal
import DartModels.Document.Value
import DartModels.Main
import DartModels.Name.Casing
import DartModels.Name.ClassName
import DartModels.Name.Identifier
import DartModels.Name.Registry
import DartModels.Number.Binary64
import DartModels.Number.Reading
import DartModels.Number.Shortest
import DartModels.Options.Config
import DartModels.Options.Defaults
import DartModels.Options.OptionError
import DartModels.Options.Override
import DartModels.Project.Build
import DartModels.Project.Event
import DartModels.Project.FileError
import DartModels.Project.FileSystem
import DartModels.Project.Flutter
import DartModels.Project.Location
import DartModels.Project.Output
import DartModels.Project.Tree
import DartModels.Proofs.Checked
import DartModels.Proofs.Cli.Containment
import DartModels.Proofs.Cli.Course
import DartModels.Proofs.Cli.Effects
import DartModels.Proofs.Cli.ForceWord
import DartModels.Proofs.Cli.Repetition
import DartModels.Proofs.Cli.Request
import DartModels.Proofs.Cli.Survival
import DartModels.Proofs.Dart.Brackets
import DartModels.Proofs.Dart.ClassHead
import DartModels.Proofs.Dart.Companions
import DartModels.Proofs.Dart.Escaping
import DartModels.Proofs.Dart.Literal
import DartModels.Proofs.Dart.RootName
import DartModels.Proofs.Dart.RoundTrip
import DartModels.Proofs.Dart.Scan
import DartModels.Proofs.Dart.SourceReader
import DartModels.Proofs.Dart.Spelling
import DartModels.Proofs.Dart.TypeReader
import DartModels.Proofs.Document.Bound
import DartModels.Proofs.Document.Decoding
import DartModels.Proofs.Document.FirstOffender
import DartModels.Proofs.Document.Nesting
import DartModels.Proofs.Document.Offences
import DartModels.Proofs.Document.Profile
import DartModels.Proofs.Document.Skeleton
import DartModels.Proofs.Name.FileStem
import DartModels.Proofs.Name.JoinedWords
import DartModels.Proofs.Name.Legality
import DartModels.Proofs.Name.Letters
import DartModels.Proofs.Name.Numbering
import DartModels.Proofs.Name.Requests
import DartModels.Proofs.Name.Words
import DartModels.Proofs.Number.Leading
import DartModels.Proofs.Number.Numeral
import DartModels.Proofs.Options.LastOverride
import DartModels.Proofs.Options.Reserved
import DartModels.Proofs.Project.AllOrNothing
import DartModels.Proofs.Project.FileSystem
import DartModels.Proofs.Project.Flutter
import DartModels.Proofs.Project.Growth
import DartModels.Proofs.Project.Output
import DartModels.Proofs.Project.Repetition
import DartModels.Proofs.Project.Tree
import DartModels.Proofs.Schema.Acceptance
import DartModels.Proofs.Schema.ClassNames
import DartModels.Proofs.Schema.DepthBound
import DartModels.Proofs.Schema.DepthCap
import DartModels.Proofs.Schema.FieldContent
import DartModels.Proofs.Schema.Growth
import DartModels.Proofs.Schema.Naming
import DartModels.Proofs.Schema.OptionScope
import DartModels.Proofs.Schema.Outline
import DartModels.Proofs.Schema.OverrideScope
import DartModels.Proofs.Schema.ProfileOnly
import DartModels.Proofs.Schema.ReferenceTree
import DartModels.Proofs.Schema.Totality
import DartModels.Proofs.Schema.TypeForm
import DartModels.Proofs.Schema.UserLiteral
import DartModels.Proofs.Schema.Walk
import DartModels.Proofs.Text.Avoidance
import DartModels.Schema.Default
import DartModels.Schema.Event
import DartModels.Schema.Failure
import DartModels.Schema.Generate
import DartModels.Schema.Infer
import DartModels.Schema.Model
import DartModels.Schema.Traced
import DartModels.Schema.TypeRef
import DartModels.Text.Blank
import DartModels.Text.CharRange
import DartModels.Text.ControlSequence
import DartModels.Text.DecimalDigit
import DartModels.Text.Front
import DartModels.Text.Newline
import DartModels.Text.Parts
import DartModels.Text.Printable
import DartModels.Text.Quoted
import DartModels.Text.Utf8
import DartModels.Text.WordChar
import DartModels.Proofs.Name.Absorption
import DartModels.Proofs.Number.IntegerText
import DartModels.Proofs.Number.Layout
import DartModels.Proofs.Project.RelativePath
import DartModels.Proofs.Schema.NormalLiteral
import DartModels.Proofs.Name.Projection
import DartModels.Proofs.Dart.Opacity
import DartModels.Proofs.Options.Loading
import DartModels.Proofs.Project.NearestRoot
import DartModels.Proofs.Cli.ConverterImport
