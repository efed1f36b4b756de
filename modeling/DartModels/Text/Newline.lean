/-
Line ends of texts.
-/

namespace DartModels.Text

/-- Every line end becomes a line feed, a carriage return before a line feed being part of it. -/
def unifyNewlines : List Char → List Char
  | [] => []
  | '\r' :: '\n' :: rest => '\n' :: unifyNewlines rest
  | c :: rest => (if c = '\r' then '\n' else c) :: unifyNewlines rest

end DartModels.Text
