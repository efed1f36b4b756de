import DartModels.Document.Node
import DartModels.Document.Refusal

/-
Classification of decoded data, container by container in document order.
-/

namespace DartModels.Document

open DartModels.Number

/-- A number without a fraction is an integer. -/
def Node.ofReal (value : Binary64) : Node :=
  match value.toInt? with
  | some number => .integer number
  | none => .real value

mutual

/-- A container is checked before its contents; `depth` counts the containers around it. -/
def classify (limit : DepthLimit) (path : Path) (depth : Nat) : Value → Except Refusal Node
  | .null => .ok .null
  | .boolean value => .ok (.boolean value)
  | .integer value => .ok (.integer value)
  | .real value => .ok (Node.ofReal value)
  | .text value => .ok (.text value)
  | .list items => do
      limit.check path depth
      return .array (← classifyItems limit path (depth + 1) 0 items)
  | .tuple items => do
      limit.check path depth
      return .array (← classifyItems limit path (depth + 1) 0 items)
  | .mapping entries => do
      limit.check path depth
      return .object (← classifyEntries limit path (depth + 1) entries)
  | .foreign typeName _ => .error (.unsupported path typeName)

def classifyItems (limit : DepthLimit) (path : Path) (depth position : Nat) :
    List Value → Except Refusal (List Node)
  | [] => .ok []
  | item :: rest => do
      let node ← classify limit (path.index position) depth item
      return node :: (← classifyItems limit path depth (position + 1) rest)

/-- A member is named by the text of its key. -/
def classifyEntries (limit : DepthLimit) (path : Path) (depth : Nat) :
    List (Value × Value) → Except Refusal (List (String × Node))
  | [] => .ok []
  | (key, value) :: rest => do
      let node ← classify limit (path.key key.display) depth value
      return (key.display, node) :: (← classifyEntries limit path depth rest)

end

/-- The classified form of a whole document. -/
def Node.ofValue (limit : DepthLimit) (value : Value) : Except Refusal Node :=
  classify limit .root 0 value

end DartModels.Document
