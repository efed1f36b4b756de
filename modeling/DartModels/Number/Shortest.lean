import DartModels.Number.Binary64

/-
The shortest decimal that reads back as a given double, and its text.
-/

namespace DartModels.Number

/-- The number `digits * 10 ^ exponent`. -/
structure Decimal where
  digits : Nat
  exponent : Int
  deriving DecidableEq, Repr

namespace Binary64

/-- Every finite double has an exact decimal. -/
def exactDecimal (mantissa : Nat) (exponent : Int) : Decimal :=
  if 0 ≤ exponent then ⟨mantissa * power 2 exponent, 0⟩
  else ⟨mantissa * power 5 (-exponent), exponent⟩

/-- The two neighbours of an exact decimal after a cut, the nearer one first. -/
def neighbours (exact : Decimal) (cut : Nat) : List Decimal :=
  let unit := power 10 cut
  let below := exact.digits / unit
  let twice := 2 * (exact.digits % unit)
  let exponent := exact.exponent + cut
  let lowerFirst := twice < unit || (twice == unit && below % 2 == 0)
  if lowerFirst then [⟨below, exponent⟩, ⟨below + 1, exponent⟩]
  else [⟨below + 1, exponent⟩, ⟨below, exponent⟩]

/-- Tries the deepest cut first and takes the first neighbour that reads back. -/
def search (reads : Decimal → Bool) (exact : Decimal) : (cut : Nat) → Decimal
  | 0 => exact
  | cut + 1 =>
      match (neighbours exact (cut + 1)).find? reads with
      | some found => found
      | none => search reads exact cut

/-- The decimal of fewest digits that reads back, the nearest one of these. -/
def shortest (mantissa : Nat) (exponent : Int) : Decimal :=
  let exact := exactDecimal mantissa exponent
  let reads (decimal : Decimal) : Bool :=
    ofDecimal false decimal.digits decimal.exponent == .finite false mantissa exponent
  search reads exact ((Nat.toDigits 10 exact.digits).length - 1)

/-- Drops the zeros at the end of the digits. -/
def dropZeros (digits : List Char) : List Char :=
  (digits.reverse.dropWhile (· == '0')).reverse

/-- An exponent has a sign and at least two digits. -/
def exponentText (exponent : Int) : List Char :=
  let size := Nat.toDigits 10 exponent.natAbs
  'e' :: (if exponent < 0 then '-' else '+') :: (if size.length < 2 then '0' :: size else size)

/-- Positional for a decimal point at most 4 places before or 16 after the first digit. -/
def layout (digits : List Char) (point : Int) : List Char :=
  if -4 < point ∧ point ≤ 16 then
    if point ≤ 0 then '0' :: '.' :: List.replicate (-point).toNat '0' ++ digits
    else if digits.length ≤ point.toNat then
      digits ++ List.replicate (point.toNat - digits.length) '0' ++ ['.', '0']
    else digits.take point.toNat ++ '.' :: digits.drop point.toNat
  else
    let (first, rest) := (digits.take 1, digits.drop 1)
    first ++ (if rest.isEmpty then [] else '.' :: rest) ++ exponentText (point - 1)

def sizeText (mantissa : Nat) (exponent : Int) : List Char :=
  if mantissa = 0 then ['0', '.', '0']
  else
    let decimal := shortest mantissa exponent
    let digits := Nat.toDigits 10 decimal.digits
    layout (dropZeros digits) (digits.length + decimal.exponent)

def text : Binary64 → String
  | .nan => "nan"
  | .infinite negative => if negative then "-inf" else "inf"
  | .finite negative mantissa exponent =>
      let size := sizeText mantissa exponent
      String.ofList (if negative then '-' :: size else size)

end Binary64

end DartModels.Number
