import DartModels.Text.CharRange

/-
White space, and texts trimmed of it.
-/

namespace DartModels.Text

/-- The white space of Unicode with the four information separators. -/
def blankRanges : CharRanges :=
  [
    (0x9, 0xD), (0x1C, 0x20), (0x85, 0x85), (0xA0, 0xA0), (0x1680, 0x1680), (0x2000, 0x200A),
    (0x2028, 0x2029), (0x202F, 0x202F), (0x205F, 0x205F), (0x3000, 0x3000)
  ]

def isBlank (c : Char) : Bool := blankRanges.contains c

def trimStart (text : List Char) : List Char := text.dropWhile isBlank

/-- Trimming removes white space at both ends and keeps it inside. -/
def trim (text : List Char) : List Char :=
  (trimStart (trimStart text).reverse).reverse

def trimmed (text : String) : String := String.ofList (trim text.toList)

/-- A blank text holds white space at most. -/
def isBlankText (text : String) : Bool := text.toList.all isBlank

end DartModels.Text
