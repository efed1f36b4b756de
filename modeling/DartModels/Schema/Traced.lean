/-
Computations that may fail and keep notes of what they did before.
-/

namespace DartModels.Schema

/-- The notes of a failed computation end with its failure. -/
structure Traced (Note Failure Answer : Type) where
  notes : List Note
  result : Except Failure Answer

namespace Traced

variable {Note Failure Answer Next : Type}

def ofExcept (result : Except Failure Answer) : Traced Note Failure Answer := ⟨[], result⟩

/-- Goes on with an answer and stops at a failure. -/
def andThen (first : Traced Note Failure Answer) (next : Answer → Traced Note Failure Next) :
    Traced Note Failure Next :=
  match first.result with
  | .error failure => ⟨first.notes, .error failure⟩
  | .ok answer =>
      let second := next answer
      ⟨first.notes ++ second.notes, second.result⟩

instance : Monad (Traced Note Failure) where
  pure answer := ⟨[], .ok answer⟩
  bind := andThen

def note (event : Note) : Traced Note Failure Unit := ⟨[event], .ok ()⟩

/-- Fails after a note. -/
def failWith (event : Note) (failure : Failure) : Traced Note Failure Answer :=
  ⟨[event], .error failure⟩

@[simp] theorem result_pure (answer : Answer) :
    (pure answer : Traced Note Failure Answer).result = .ok answer := rfl

@[simp] theorem result_note (event : Note) :
    (note event : Traced Note Failure Unit).result = .ok () := rfl

@[simp] theorem result_ofExcept (result : Except Failure Answer) :
    (ofExcept result : Traced Note Failure Answer).result = result := rfl

/-- The notes do not influence the answer. -/
@[simp] theorem result_bind (first : Traced Note Failure Answer)
    (next : Answer → Traced Note Failure Next) :
    (first >>= next).result = first.result.bind fun answer => (next answer).result := by
  change (andThen first next).result = _
  unfold andThen
  cases first.result <;> rfl

end Traced

end DartModels.Schema
