/-
Word boundaries in texts, and the casings of Dart names.
-/

namespace DartModels.Name

/-- A capital begins a word when a small letter or a digit stands before it. -/
def isBoundary (before c : Char) : Bool :=
  (before.isLower || before.isDigit) && c.isUpper

/-- Whether a word ends between a character and the text after it. -/
def endsWord (c : Char) : List Char → Bool
  | next :: _ => isBoundary c next
  | [] => false

/-- Puts a word before others unless it is empty. -/
def pushWord (word : List Char) (words : List (List Char)) : List (List Char) :=
  if word.isEmpty then words else word :: words

/-- The word that a text begins with, and the words after it. -/
def cutWords : List Char → List Char × List (List Char)
  | [] => ([], [])
  | c :: rest =>
      let (word, words) := cutWords rest
      if !c.isAlphanum then ([], pushWord word words)
      else if endsWord c rest then ([c], pushWord word words)
      else (c :: word, words)

/-- The words of a text are its runs of ASCII letters and digits, cut at boundaries. -/
def words (text : List Char) : List (List Char) :=
  let (word, rest) := cutWords text
  pushWord word rest

/-- Only the first letter changes, so acronyms survive. -/
def capitalize : List Char → List Char
  | [] => []
  | c :: rest => c.toUpper :: rest

def uncapitalize : List Char → List Char
  | [] => []
  | c :: rest => c.toLower :: rest

/-- Puts a letter before a text that begins with a digit. -/
def guardDigit (letter : Char) : List Char → List Char
  | [] => []
  | c :: rest => if c.isDigit then letter :: c :: rest else c :: rest

def pascalChars (text : List Char) : List Char :=
  guardDigit 'X' ((words text).flatMap capitalize)

def camelChars (text : List Char) : List Char :=
  uncapitalize (pascalChars text)

/-- Puts an underscore at every boundary. -/
def splitBoundaries : List Char → List Char
  | [] => []
  | c :: rest =>
      if endsWord c rest then c :: '_' :: splitBoundaries rest else c :: splitBoundaries rest

def beginsWithSeparator : List Char → Bool
  | c :: _ => !c.isAlphanum
  | [] => false

/-- Puts one underscore for every run of separators. -/
def joinSeparators : List Char → List Char
  | [] => []
  | c :: rest =>
      if c.isAlphanum then c :: joinSeparators rest
      else if beginsWithSeparator rest then joinSeparators rest
      else '_' :: joinSeparators rest

def trimUnderscores (text : List Char) : List Char :=
  ((text.dropWhile (· == '_')).reverse.dropWhile (· == '_')).reverse

def snakeChars (text : List Char) : List Char :=
  let spaced := joinSeparators (splitBoundaries text)
  guardDigit 'x' (trimUnderscores (spaced.map Char.toLower))

/-- Class names are written in this casing: `first_name` becomes `FirstName`. -/
def pascal (text : String) : String := String.ofList (pascalChars text.toList)

/-- Field names are written in this casing: `user_id` becomes `userId`. -/
def camel (text : String) : String := String.ofList (camelChars text.toList)

/-- File names are written in this casing: `UserEntity` becomes `user_entity`. -/
def snake (text : String) : String := String.ofList (snakeChars text.toList)

/-- Drops an `s` at the end of a text that holds more than it. -/
def singularChars (text : List Char) : List Char :=
  if 1 < text.length && text.getLast? == some 's' then text.dropLast else text

def singular (text : String) : String := String.ofList (singularChars text.toList)

end DartModels.Name
