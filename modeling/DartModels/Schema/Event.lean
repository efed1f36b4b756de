import DartModels.Document.Path

/-
Events during the inference of models.
-/

namespace DartModels.Schema

open DartModels.Document

inductive Event where
  | documentTooDeep (path : Path)
  | walkTooDeep (path : Path)
  | modelOpened (name : String) (path : Path)
  | elementResolved (path : Path) (index : Nat)
  | inferred (count : Nat) (rootName : String)
  deriving DecidableEq, Repr

end DartModels.Schema
