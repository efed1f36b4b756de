import DartModels.Document.DepthLimit
import DartModels.Document.Path

/-
Reasons to refuse a document.
-/

namespace DartModels.Document

inductive Refusal where
  | tooDeep (path : Path) (limit : DepthLimit)
  | unsupported (path : Path) (typeName : String)
  | limitNotNumber (typeName : String)
  deriving DecidableEq, Repr

def Refusal.message : Refusal → String
  | .tooDeep path limit =>
      "JSON nesting at " ++ path.text ++ " exceeds the maximum depth of " ++ limit.text
  | .unsupported path typeName => "Unsupported JSON value at " ++ path.text ++ ": " ++ typeName
  | .limitNotNumber typeName =>
      "'<' not supported between instances of 'int' and '" ++ typeName ++ "'"

/-- The limit that a value asks for, within the highest one. -/
def DepthLimit.ofConfigured (value : Value) : Except Refusal DepthLimit :=
  match DepthLimit.ofValue? value with
  | some limit => .ok limit.capped
  | none => .error (.limitNotNumber value.typeName)

/-- A container may not lie beyond the limit. -/
def DepthLimit.check (limit : DepthLimit) (path : Path) (depth : Nat) : Except Refusal Unit :=
  if limit.isExceededBy depth then .error (.tooDeep path limit) else .ok ()

theorem DepthLimit.within_of_check {limit : DepthLimit} {path : Path} {depth : Nat} {passed : Unit}
    (checked : limit.check path depth = .ok passed) : limit.isExceededBy depth = false := by
  unfold check at checked
  cases exceeded : limit.isExceededBy depth with
  | false => rfl
  | true => simp [exceeded] at checked

end DartModels.Document
