/-
String literals of Dart in single quotes.
-/

namespace DartModels.Dart.StringLiteral

/-- A backslash precedes itself, the quote and the dollar, and stands for line ends with a
letter. -/
def escapeChar (c : Char) : List Char :=
  if c = '\\' || c = '\'' || c = '$' then ['\\', c]
  else if c = '\n' then ['\\', 'n']
  else if c = '\r' then ['\\', 'r']
  else [c]

def escapeChars (text : List Char) : List Char := text.flatMap escapeChar

/-- What stands between the quotes of the literal that denotes a text. -/
def escape (text : String) : String := String.ofList (escapeChars text.toList)

def literal (text : String) : String := "'" ++ escape text ++ "'"

end DartModels.Dart.StringLiteral
