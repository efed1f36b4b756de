/-
Computations that may fail.
-/

namespace DartModels

variable {Failure Answer Next : Type}

theorem bind_eq_ok {first : Except Failure Answer} {next : Answer → Except Failure Next}
    {answer : Next} :
    (first >>= next) = .ok answer ↔ ∃ found, first = .ok found ∧ next found = .ok answer := by
  cases first with
  | error failure => simp [bind, Except.bind]
  | ok found => simp [bind, Except.bind]

theorem eq_ok_of_mapError {Cause : Type} {result : Except Failure Answer} {name : Failure → Cause}
    {answer : Answer} (ok : result.mapError name = .ok answer) : result = .ok answer := by
  cases result with
  | error failure => cases ok
  | ok found =>
      cases ok
      rfl

theorem eq_error_of_mapError {Cause : Type} {result : Except Failure Answer}
    {name : Failure → Cause} {cause : Cause} (failed : result.mapError name = .error cause) :
    ∃ failure, result = .error failure ∧ name failure = cause := by
  cases result with
  | ok found => cases failed
  | error failure =>
      cases failed
      exact ⟨failure, rfl, rfl⟩

/-- A value that may be missing is checked when it is there. -/
theorem mapM_eq_ok_some {check : Answer → Except Failure Next} {given : Option Answer}
    {answer : Next} (ok : given.mapM check = .ok (some answer)) :
    ∃ value, given = some value ∧ check value = .ok answer := by
  cases given with
  | none => cases ok
  | some value =>
      obtain ⟨found, checked, same⟩ := bind_eq_ok.mp ok
      cases same
      exact ⟨value, rfl, checked⟩

/-- An answer is accepted, or a failure is one that may be. -/
def Settles (accepted : Answer → Prop) (refused : Failure → Prop) :
    Except Failure Answer → Prop
  | .ok answer => accepted answer
  | .error failure => refused failure

namespace Settles

variable {accepted : Answer → Prop} {refused : Failure → Prop} {result : Except Failure Answer}

theorem bind {next : Answer → Except Failure Next} {acceptedNext : Next → Prop}
    (first : Settles accepted refused result)
    (later : ∀ answer, accepted answer → Settles acceptedNext refused (next answer)) :
    Settles acceptedNext refused (result >>= next) := by
  cases result with
  | ok answer => exact later answer first
  | error failure => exact first

theorem mapError {Cause : Type} {name : Failure → Cause} {refusedCause : Cause → Prop}
    (settled : Settles accepted (fun failure => refusedCause (name failure)) result) :
    Settles accepted refusedCause (result.mapError name) := by
  cases result with
  | ok answer => exact settled
  | error failure => exact settled

theorem imp {otherAccepted : Answer → Prop} {otherRefused : Failure → Prop}
    (settled : Settles accepted refused result)
    (answers : ∀ answer, accepted answer → otherAccepted answer)
    (failures : ∀ failure, refused failure → otherRefused failure) :
    Settles otherAccepted otherRefused result := by
  cases result with
  | ok answer => exact answers answer settled
  | error failure => exact failures failure settled

/-- What every step keeps is kept by all of them one after another. -/
theorem foldlM {Item : Type} {step : Answer → Item → Except Failure Answer} {items : List Item}
    (each : ∀ item ∈ items, ∀ state, accepted state → Settles accepted refused (step state item))
    {start : Answer} (before : accepted start) :
    Settles accepted refused (items.foldlM step start) := by
  induction items generalizing start with
  | nil => exact before
  | cons item rest ih =>
      obtain ⟨own, others⟩ := List.forall_mem_cons.mp each
      rw [List.foldlM_cons]
      exact (own start before).bind fun state kept => ih others kept

/-- A value that may be missing is checked when it is there. -/
theorem mapM {check : Answer → Except Failure Next} {given : Option Answer}
    {acceptedNext : Next → Prop}
    (each : ∀ value ∈ given, Settles acceptedNext refused (check value)) :
    Settles (fun found => (found = none → given = none) ∧ ∀ answer ∈ found, acceptedNext answer)
      refused (given.mapM check) := by
  cases given with
  | none => exact ⟨fun _ => rfl, fun _ found => by cases found⟩
  | some value =>
      refine Settles.bind (each value rfl) fun answer checked => ?_
      refine ⟨fun missing => ?_, fun found same => ?_⟩
      · cases missing
      · cases same
        exact checked

end Settles

end DartModels
