import DartModels.Document.Fault
import DartModels.Document.Value
import DartModels.Text.Front

/-
Reading of JSON texts.
-/

namespace DartModels.Document.Reader

open DartModels.Number
open DartModels.Text

/-- Reading stops with a fault where so many characters remain, or at a long integer. -/
inductive Stop where
  | fault (kind : Fault.Kind) (remaining : Nat)
  | tooManyDigits (excess : TooManyDigits)

def stopAt {Answer : Type} (kind : Fault.Kind) (text : List Char) : Except Stop Answer :=
  .error (.fault kind text.length)

def isSpace (c : Char) : Bool :=
  c == ' ' || c == '\t' || c == '\n' || c == '\r'

def skipSpace (text : List Char) : List Char := text.dropWhile isSpace

def hexValue? (c : Char) : Option Nat :=
  if c.isDigit then some (c.toNat - '0'.toNat)
  else if 'a' ≤ c ∧ c ≤ 'f' then some (c.toNat - 'a'.toNat + 10)
  else if 'A' ≤ c ∧ c ≤ 'F' then some (c.toNat - 'A'.toNat + 10)
  else none

/-- The code unit that four hexadecimal digits write. -/
def codeUnit? : List Char → Option (Nat × List Char)
  | a :: b :: c :: d :: rest => do
      let a ← hexValue? a
      let b ← hexValue? b
      let c ← hexValue? c
      let d ← hexValue? d
      return (4096 * a + 256 * b + 16 * c + d, rest)
  | _ => none

def isHighSurrogate (unit : Nat) : Bool := 0xD800 ≤ unit && unit < 0xDC00

def isLowSurrogate (unit : Nat) : Bool := 0xDC00 ≤ unit && unit < 0xE000

/-- A lone surrogate is no character and becomes the replacement character. -/
def ofCodeUnit (unit : Nat) : Char :=
  if isHighSurrogate unit || isLowSurrogate unit then Char.ofNat 0xFFFD else Char.ofNat unit

/-- The escape after `\u`; a high surrogate takes the low one that follows it. -/
def codePoint (start : List Char) : Except Stop (Char × List Char) :=
  let digits := start.drop 1
  if digits.length ≤ 4 then stopAt .invalidCodePoint start
  else
    match codeUnit? digits with
    | none => stopAt .invalidCodePoint start
    | some (unit, rest) =>
        match rest with
        | '\\' :: 'u' :: second =>
            if isHighSurrogate unit && 6 < rest.length then
              match codeUnit? second with
              | none => stopAt .invalidCodePoint ('u' :: second)
              | some (low, after) =>
                  if isLowSurrogate low then
                    let code := 0x10000 + 0x400 * (unit - 0xD800) + (low - 0xDC00)
                    .ok (Char.ofNat code, after)
                  else .ok (ofCodeUnit unit, rest)
            else .ok (ofCodeUnit unit, rest)
        | _ => .ok (ofCodeUnit unit, rest)

/-- The character that a one-letter escape denotes. -/
def shortEscape? : Char → Option Char
  | '"' => some '"'
  | '\\' => some '\\'
  | '/' => some '/'
  | 'b' => some '\x08'
  | 'f' => some '\x0c'
  | 'n' => some '\n'
  | 'r' => some '\r'
  | 't' => some '\t'
  | _ => none

/-- Reads the rest of a string; `start` is what remained at its opening quote. -/
def readString (start : Nat) : (fuel : Nat) → List Char → Except Stop (List Char × List Char)
  | 0, _ => .error (.fault .unterminated start)
  | _, [] => .error (.fault .unterminated start)
  | _, '"' :: rest => .ok ([], rest)
  | _, ['\\'] => .error (.fault .unterminated start)
  | fuel + 1, '\\' :: 'u' :: rest => do
      let (c, rest) ← codePoint ('u' :: rest)
      let (cs, rest) ← readString start fuel rest
      return (c :: cs, rest)
  | fuel + 1, '\\' :: letter :: rest =>
      match shortEscape? letter with
      | none => stopAt .invalidEscape ('\\' :: letter :: rest)
      | some c => do
          let (cs, rest) ← readString start fuel rest
          return (c :: cs, rest)
  | fuel + 1, c :: rest =>
      if c.toNat < 0x20 then stopAt .controlCharacter (c :: rest)
      else do
        let (cs, rest) ← readString start fuel rest
        return (c :: cs, rest)

/-- Reads the string whose opening quote has been taken. -/
def string (rest : List Char) : Except Stop (String × List Char) := do
  let (cs, rest) ← readString (rest.length + 1) (rest.length + 1) rest
  return (String.ofList cs, rest)

/-- The whole part of a number is a zero alone or digits that begin otherwise. -/
def wholePart : List Char → List Nat × List Char
  | '0' :: rest => ([0], rest)
  | text => spanDigits asciiDigitValue? text

/-- Reads a number; a fraction or an exponent makes it a double. -/
def number (text : List Char) : Except Stop (Value × List Char) :=
  let (negative, unsigned) :=
    match text with
    | '-' :: rest => (true, rest)
    | _ => (false, text)
  let (whole, afterWhole) := wholePart unsigned
  if whole.isEmpty then stopAt .expectingValue text
  else
    let fraction := takeFraction asciiDigitValue? 1 afterWhole
    let afterFraction := (fraction.map Prod.snd).getD afterWhole
    let exponent := takeExponent asciiDigitValue? afterFraction
    let after := (exponent.map Prod.snd).getD afterFraction
    if fraction.isNone && exponent.isNone then
      match ofSignedDigits negative whole with
      | .ok value => .ok (.integer value, after)
      | .error excess => .error (.tooManyDigits excess)
    else
      let digits := (fraction.map Prod.fst).getD []
      .ok (.real (ofParts negative whole digits ((exponent.map Prod.fst).getD 0)), after)

/-- The words that stand for values. -/
def words : List (String × Value) :=
  [("null", .null), ("true", .boolean true), ("false", .boolean false), ("NaN", .real .nan),
    ("Infinity", .real (.infinite false)), ("-Infinity", .real (.infinite true))]

/-- Reads a value without members. -/
def scalar (text : List Char) : Except Stop (Value × List Char) :=
  match words.findSome? fun word => (afterWord? word.1.toList text).map (word.2, ·) with
  | some found => .ok found
  | none => number text

/-- The name of a member and the colon after it. -/
def memberName (text : List Char) : Except Stop (String × List Char) :=
  match text with
  | '"' :: rest => do
      let (name, rest) ← string rest
      match skipSpace rest with
      | ':' :: rest => return (name, skipSpace rest)
      | rest => stopAt .expectingColon rest
  | _ => stopAt .expectingName text

mutual

/-- Reads a value; each level of nesting and each member takes one unit of fuel. -/
def value : (fuel : Nat) → List Char → Except Stop (Value × List Char)
  | 0, text => stopAt .expectingValue text
  | fuel + 1, text =>
      match text with
      | '"' :: rest => do
          let (text, rest) ← string rest
          return (.text text, rest)
      | '[' :: rest =>
          match skipSpace rest with
          | ']' :: rest => .ok (.list [], rest)
          | rest => do
              let (items, rest) ← elements fuel rest
              return (.list items, rest)
      | '\x7b' :: rest =>
          match skipSpace rest with
          | '\x7d' :: rest => .ok (.mapping [], rest)
          | rest => do
              let (entries, rest) ← members fuel rest
              return (Value.ofEntries entries, rest)
      | _ => scalar text

/-- Reads the elements of an array up to its closing bracket. -/
def elements : (fuel : Nat) → List Char → Except Stop (List Value × List Char)
  | 0, text => stopAt .expectingValue text
  | fuel + 1, text => do
      let (item, rest) ← value fuel text
      match skipSpace rest with
      | ']' :: rest => return ([item], rest)
      | ',' :: rest =>
          let (items, rest) ← elements fuel (skipSpace rest)
          return (item :: items, rest)
      | rest => stopAt .expectingComma rest

/-- Reads the members of an object up to its closing brace. -/
def members : (fuel : Nat) → List Char → Except Stop (List (Value × Value) × List Char)
  | 0, text => stopAt .expectingName text
  | fuel + 1, text => do
      let (name, rest) ← memberName text
      let (item, rest) ← value fuel rest
      match skipSpace rest with
      | '\x7d' :: rest => return ([(.text name, item)], rest)
      | ',' :: rest =>
          let (entries, rest) ← members fuel (skipSpace rest)
          return ((.text name, item) :: entries, rest)
      | rest => stopAt .expectingComma rest

end

/-- A document is one value with white space around it and no byte order mark. -/
def document (text : List Char) : Except Stop Value :=
  match text with
  | '\uFEFF' :: _ => stopAt .byteOrderMark text
  | _ => do
      let (result, rest) ← value (2 * text.length + 2) (skipSpace text)
      match skipSpace rest with
      | [] => return result
      | rest => stopAt .extraData rest

def Stop.failure (text : List Char) : Stop → ReadFailure
  | .fault kind remaining => .malformed (Fault.locate kind text remaining)
  | .tooManyDigits excess => .tooManyDigits excess

end Reader

/-- The value that a JSON text writes; a repeated name keeps its place and its last value. -/
def Value.ofJson (text : String) : Except ReadFailure Value :=
  (Reader.document text.toList).mapError (Reader.Stop.failure text.toList)

end DartModels.Document
