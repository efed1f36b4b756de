import DartModels.Number.Reading

/-
Faults of malformed JSON texts.
-/

namespace DartModels.Document

open DartModels.Number

inductive Fault.Kind where
  | byteOrderMark
  | expectingValue
  | expectingName
  | expectingColon
  | expectingComma
  | extraData
  | unterminated
  | controlCharacter
  | invalidEscape
  | invalidCodePoint
  deriving DecidableEq, Repr

def Fault.Kind.message : Fault.Kind → String
  | .byteOrderMark => "Unexpected UTF-8 BOM (decode using utf-8-sig)"
  | .expectingValue => "Expecting value"
  | .expectingName => "Expecting property name enclosed in double quotes"
  | .expectingColon => "Expecting ':' delimiter"
  | .expectingComma => "Expecting ',' delimiter"
  | .extraData => "Extra data"
  | .unterminated => "Unterminated string starting at"
  | .controlCharacter => "Invalid control character at"
  | .invalidEscape => "Invalid \\escape"
  | .invalidCodePoint => "Invalid \\uXXXX escape"

/-- A fault lies at a character of the text, lines and columns counted from one. -/
structure Fault where
  kind : Fault.Kind
  line : Nat
  column : Nat
  position : Nat
  deriving DecidableEq, Repr

def Fault.message (fault : Fault) : String :=
  fault.kind.message ++ ": line " ++ toString fault.line ++ " column " ++
    toString fault.column ++ " (char " ++ toString fault.position ++ ")"

/-- The place in the text where so many characters remain. -/
def Fault.locate (kind : Fault.Kind) (text : List Char) (remaining : Nat) : Fault :=
  let position := text.length - remaining
  let before := text.take position
  let inLine := before.reverse.takeWhile (· != '\n')
  ⟨kind, before.count '\n' + 1, inLine.length + 1, position⟩

/-- A text is malformed, or it writes an integer that is too long. -/
inductive ReadFailure where
  | malformed (fault : Fault)
  | tooManyDigits (excess : TooManyDigits)
  deriving DecidableEq, Repr

def ReadFailure.message : ReadFailure → String
  | .malformed fault => fault.message
  | .tooManyDigits excess => excess.message

end DartModels.Document
