/-
Places of values in a document.
-/

namespace DartModels.Document

inductive Path where
  | root
  | key (parent : Path) (name : String)
  | index (parent : Path) (position : Nat)
  deriving DecidableEq, Repr

/-- The root is `$`, a member adds `.key` and an element `[index]`. -/
def Path.text : Path → String
  | .root => "$"
  | .key parent name => parent.text ++ "." ++ name
  | .index parent position => parent.text ++ "[" ++ toString position ++ "]"

end DartModels.Document
