import DartModels.Number.Binary64
import DartModels.Text.DecimalDigit

/-
Numbers at the beginning of a text.
-/

namespace DartModels.Number

open DartModels.Text

/-- A digit class gives the values of its members. -/
abbrev DigitClass := Char → Option Nat

/-- The longest integer text that the limit on digits admits. -/
def maxDigits : Nat := 4300

/-- The number of digits in an integer text that is too long. -/
structure TooManyDigits where
  count : Nat
  deriving DecidableEq, Repr

def TooManyDigits.message (excess : TooManyDigits) : String :=
  "Exceeds the limit (4300 digits) for integer string conversion: value has " ++
    toString excess.count ++
    " digits; use sys.set_int_max_str_digits() to increase the limit"

def signed (negative : Bool) (size : Nat) : Int :=
  if negative then -(size : Int) else size

/-- The integer that the digits write, zeros at the front counted as digits. -/
def ofSignedDigits (negative : Bool) (digits : List Nat) : Except TooManyDigits Int :=
  if maxDigits < digits.length then .error ⟨digits.length⟩
  else .ok (signed negative (ofDigits digits))

/-- Takes a sign off a text; the answer says whether it is a minus. -/
def takeSign : List Char → Bool × List Char
  | '-' :: rest => (true, rest)
  | '+' :: rest => (false, rest)
  | text => (false, text)

/-- An exponent is a letter `e`, a sign or none, and digits; anything else is left alone. -/
def takeExponent (value? : DigitClass) (text : List Char) : Option (Int × List Char) :=
  match text with
  | c :: rest =>
      if c = 'e' ∨ c = 'E' then
        let (negative, unsigned) := takeSign rest
        match spanDigits value? unsigned with
        | ([], _) => none
        | (digits, after) => some (signed negative (ofDigits digits), after)
      else none
  | [] => none

/-- A fraction is a point and the digits after it, at least as many as asked for. -/
def takeFraction (value? : DigitClass) (least : Nat) (text : List Char) :
    Option (List Nat × List Char) :=
  match text with
  | '.' :: rest =>
      let (digits, after) := spanDigits value? rest
      if least ≤ digits.length then some (digits, after) else none
  | _ => none

/-- The double that whole digits, fraction digits and an exponent write. -/
def ofParts (negative : Bool) (whole fraction : List Nat) (exponent : Int) : Binary64 :=
  Binary64.ofDecimal negative (ofDigits (whole ++ fraction)) (exponent - fraction.length)

/-- The sign and the digits of the integer that a text begins with. -/
def takeInteger (value? : DigitClass) (text : List Char) : Option (Bool × List Nat) :=
  let (negative, unsigned) := takeSign text
  match spanDigits value? unsigned with
  | ([], _) => none
  | (digits, _) => some (negative, digits)

/-- The double that a text begins with: digits and a fraction, either one optional, and an
exponent or none. -/
def takeReal (value? : DigitClass) (text : List Char) : Option (Binary64 × List Char) :=
  let (negative, unsigned) := takeSign text
  let (whole, afterWhole) := spanDigits value? unsigned
  let least := if whole.isEmpty then 1 else 0
  let (fraction, afterFraction) := (takeFraction value? least afterWhole).getD ([], afterWhole)
  if whole.isEmpty && fraction.isEmpty then none
  else
    let (exponent, after) := (takeExponent value? afterFraction).getD (0, afterFraction)
    some (ofParts negative whole fraction exponent, after)

/-- The double that a whole text writes, in digits or as one of the words for what is none. -/
def realOfText? (text : String) : Option Binary64 :=
  let (negative, unsigned) := takeSign text.toList
  match String.ofList (unsigned.map Char.toLower) with
  | "nan" => some .nan
  | "inf" => some (.infinite negative)
  | "infinity" => some (.infinite negative)
  | _ =>
      match takeReal asciiDigitValue? text.toList with
      | some (x, []) => some x
      | _ => none

end DartModels.Number
