import DartModels.Document.Value

/-
Limits on the nesting of a document.
-/

namespace DartModels.Document

open DartModels.Number

/-- A limit is any number, and it is shown as it was given. -/
inductive DepthLimit where
  | count (value : Int)
  | flag (value : Bool)
  | real (value : Binary64)
  deriving DecidableEq, Repr

namespace DepthLimit

def ofValue? : Value → Option DepthLimit
  | .integer value => some (.count value)
  | .boolean value => some (.flag value)
  | .real value => some (.real value)
  | _ => none

/-- The order of a limit and an integer; a limit that is not a number has none. -/
def compareInt? (limit : DepthLimit) (n : Int) : Option Ordering :=
  match limit with
  | .count value => some (compare value n)
  | .flag value => some (compare (if value then 1 else 0) n)
  | .real value => value.compareInt? n

/-- No limit goes beyond this one. -/
def highest : Int := 200

/-- A limit above the highest one gives way to it. -/
def capped (limit : DepthLimit) : DepthLimit :=
  if limit.compareInt? highest = some .gt then .count highest else limit

/-- A depth is beyond a limit that is less than it. -/
def isExceededBy (limit : DepthLimit) (depth : Nat) : Bool :=
  limit.compareInt? depth == some .lt

def text : DepthLimit → String
  | .count value => (Value.integer value).written
  | .flag value => (Value.boolean value).written
  | .real value => (Value.real value).written

end DepthLimit

end DartModels.Document
