import DartModels.Options.Config
import DartModels.Proofs.Checked

/-
Reserved keys of configs. Without them a config is loaded with texts for its defaults, or it is
refused in ordinary words.
-/

namespace DartModels.Options

open DartModels.Document

/-- Keys under which a value is no option. -/
def reservedKeys : List String := ["__class__", "__dict__", "__weakref__"]

namespace Defaults

end Defaults

namespace Config

variable {entries : List (String × Value)}

end Config

end DartModels.Options
