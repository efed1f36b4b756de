import DartModels.Number.Shortest
import DartModels.Text.Quoted

/-
Decoded data: what a JSON text holds, and what another program may hand over.
-/

namespace DartModels.Document

open DartModels.Number
open DartModels.Text

/-- A mapping may have keys other than texts. A value of a foreign type has the name of its type
and, if it can be a key, its text. -/
inductive Value where
  | null
  | boolean (value : Bool)
  | integer (value : Int)
  | real (value : Binary64)
  | text (value : String)
  | list (items : List Value)
  | tuple (items : List Value)
  | mapping (entries : List (Value × Value))
  | foreign (typeName : String) (key? : Option String)
  deriving Inhabited

namespace Value

/-- The name that messages give to the type of a value. -/
def typeName : Value → String
  | .null => "NoneType"
  | .boolean _ => "bool"
  | .integer _ => "int"
  | .real _ => "float"
  | .text _ => "str"
  | .list _ => "list"
  | .tuple _ => "tuple"
  | .mapping _ => "dict"
  | .foreign name _ => name

/-- Nothing, zero and the empty values do not hold. -/
def holds : Value → Bool
  | .null => false
  | .boolean value => value
  | .integer value => value != 0
  | .real value => !value.isZero
  | .text value => !value.isEmpty
  | .list items => !items.isEmpty
  | .tuple items => !items.isEmpty
  | .mapping entries => !entries.isEmpty
  | .foreign _ _ => true

/-- The integer that a number or a truth value equals. -/
def integer? : Value → Option Int
  | .boolean value => some (if value then 1 else 0)
  | .integer value => some value
  | .real value => value.toInt?
  | _ => none

mutual

/-- Two keys are the same when they are equal as texts, as numbers or member by member. -/
def sameKey : Value → Value → Bool
  | .null, .null => true
  | .text first, .text second => first == second
  | .tuple first, .tuple second => sameKeys first second
  | .foreign first (some firstKey), .foreign second (some secondKey) =>
      first == second && firstKey == secondKey
  | .real (.infinite first), .real (.infinite second) => first == second
  | .real (.finite sign mantissa exponent), .real second =>
      let first := Binary64.finite sign mantissa exponent
      first == second || (first.isZero && second.isZero)
  | first, second =>
      match first.integer?, second.integer? with
      | some first, some second => first == second
      | _, _ => false

def sameKeys : List Value → List Value → Bool
  | [], [] => true
  | first :: firsts, second :: seconds => sameKey first second && sameKeys firsts seconds
  | _, _ => false

end

mutual

/-- The type that keeps a value from being a key: lists, mappings and some foreign values cannot
be looked up, nor can a tuple that holds one of them. -/
def unhashable? : Value → Option String
  | .list items => some (Value.list items).typeName
  | .mapping entries => some (Value.mapping entries).typeName
  | .foreign name none => some name
  | .tuple items => firstUnhashable? items
  | _ => none

def firstUnhashable? : List Value → Option String
  | [] => none
  | item :: rest =>
      match unhashable? item with
      | some name => some name
      | none => firstUnhashable? rest

end

/-- A key that is already there keeps its place and its form and takes the new value. -/
def insertEntry (key value : Value) : List (Value × Value) → List (Value × Value)
  | [] => [(key, value)]
  | (known, old) :: rest =>
      if known.sameKey key then (known, value) :: rest
      else (known, old) :: insertEntry key value rest

/-- The mapping that holds the entries after one another. -/
def ofEntries (entries : List (Value × Value)) : Value :=
  .mapping (entries.foldl (fun known entry => insertEntry entry.1 entry.2 known) [])

/-- The entries of a mapping that have a text for a key. -/
def textEntries (entries : List (Value × Value)) : List (String × Value) :=
  entries.filterMap fun entry =>
    match entry.1 with
    | .text key => some (key, entry.2)
    | _ => none

mutual

/-- The text of a value within another one. -/
def written : Value → String
  | .null => "None"
  | .boolean value => if value then "True" else "False"
  | .integer value => toString value
  | .real value => value.text
  | .text value => quoted value
  | .list items => "[" ++ ", ".intercalate (writtenItems items) ++ "]"
  | .tuple items =>
      "(" ++ ", ".intercalate (writtenItems items) ++ (if items.length = 1 then ",)" else ")")
  | .mapping entries => "\x7b" ++ ", ".intercalate (writtenEntries entries) ++ "\x7d"
  | .foreign name key? => key?.getD ("<" ++ name ++ ">")

def writtenItems : List Value → List String
  | [] => []
  | item :: rest => written item :: writtenItems rest

def writtenEntries : List (Value × Value) → List String
  | [] => []
  | (key, value) :: rest => (written key ++ ": " ++ written value) :: writtenEntries rest

end

/-- The text of a value on its own; a text stands for itself. -/
def display : Value → String
  | .text value => value
  | value => value.written

end Value

end DartModels.Document
