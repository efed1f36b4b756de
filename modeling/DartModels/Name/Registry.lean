/-
Registries that hand out unique names.
-/

namespace DartModels.Name

/-- The registry counts the requests of each base and knows every name it has handed out. -/
structure Registry where
  counts : List (String × Nat)
  issued : List String
  deriving DecidableEq, Repr

namespace Registry

def empty : Registry := ⟨[], []⟩

/-- The first name of a base is the base itself, a later one has its number appended. -/
def numbered (base : String) (number : Nat) : String :=
  if number = 1 then base else base ++ toString number

def count (registry : Registry) (base : String) : Nat :=
  (registry.counts.lookup base).getD 0

/-- The first number after `last` whose name is free; the tries bound the search. -/
def nextFree (registry : Registry) (base : String) : (tries last : Nat) → Nat
  | 0, last => last + 1
  | tries + 1, last =>
      if registry.issued.contains (numbered base (last + 1)) then
        nextFree registry base tries (last + 1)
      else last + 1

/-- Among one more names than were handed out, one is free. -/
def nextNumber (registry : Registry) (base : String) : Nat :=
  registry.nextFree base registry.issued.length (registry.count base)

def setCount (base : String) (number : Nat) : List (String × Nat) → List (String × Nat)
  | [] => [(base, number)]
  | (known, old) :: rest =>
      if known = base then (known, number) :: rest
      else (known, old) :: setCount base number rest

/-- Hands out a name that was not handed out before. -/
def unique (registry : Registry) (base : String) : String × Registry :=
  let number := registry.nextNumber base
  let name := numbered base number
  (name, ⟨setCount base number registry.counts, name :: registry.issued⟩)

/-- Whether a name was handed out. -/
def contains (registry : Registry) (name : String) : Bool :=
  registry.issued.contains name

end Registry

end DartModels.Name
