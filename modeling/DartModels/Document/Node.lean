import DartModels.Number.Binary64

/-
Classified documents: every value has its kind.
-/

namespace DartModels.Document

open DartModels.Number

/-- An object keeps its members in order, repeated keys included. -/
inductive Node where
  | null
  | boolean (value : Bool)
  | integer (value : Int)
  | real (value : Binary64)
  | text (value : String)
  | array (items : List Node)
  | object (members : List (String × Node))
  | unknown
  deriving Inhabited

namespace Node

/-- The name that messages give to the kind of a node. -/
def kindName : Node → String
  | .null => "JsonNull"
  | .boolean _ => "JsonBool"
  | .integer _ => "JsonInt"
  | .real _ => "JsonFloat"
  | .text _ => "JsonString"
  | .array _ => "JsonArray"
  | .object _ => "JsonObject"
  | .unknown => "object"

def isNull : Node → Bool
  | .null => true
  | _ => false

theorem eq_null_of_isNull {node : Node} (empty : node.isNull = true) : node = .null := by
  cases node with
  | null => rfl
  | _ => cases empty

end Node

end DartModels.Document
