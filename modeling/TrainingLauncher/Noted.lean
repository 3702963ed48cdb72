/-
Notes for the operator, and computations that leave notes on their way to a result. What is noted
stays noted when the computation fails afterwards.
-/

import TrainingLauncher.LaunchError

namespace TrainingLauncher

/-- How much a note matters. -/
inductive Severity where
  | info
  | warn
  | error
  deriving DecidableEq, Repr

/-- The severity as it is printed. -/
def Severity.name : Severity → String
  | info => "INFO"
  | warn => "WARN"
  | error => "ERROR"

/-- A line for the operator. -/
structure Note where
  severity : Severity
  text : String
  deriving DecidableEq, Repr

/-- The note as it is printed. -/
def Note.line (note : Note) : String := note.severity.name ++ " " ++ note.text

/-- A result, or the error in its place, with the notes left on the way. -/
structure Noted (α : Type) where
  notes : List Note
  result : Except LaunchError α

namespace Noted

/-- A result without a note. -/
def ofExcept (result : Except LaunchError α) : Noted α := ⟨[], result⟩

/-- Runs `next` on the result, if there is one, and keeps the notes of both. -/
def andThen (first : Noted α) (next : α → Noted β) : Noted β :=
  match first.result with
  | .ok value => ⟨first.notes ++ (next value).notes, (next value).result⟩
  | .error error => ⟨first.notes, .error error⟩

instance : Monad Noted where
  pure value := ⟨[], .ok value⟩
  bind := andThen

instance : MonadLift (Except LaunchError) Noted := ⟨ofExcept⟩

/-- Leaves a note. -/
def note (severity : Severity) (text : String) : Noted Unit := ⟨[⟨severity, text⟩], .ok ()⟩

/-- Stops with an error. -/
def fail (error : LaunchError) : Noted α := ofExcept (.error error)

@[simp] theorem result_pure (value : α) : (pure value : Noted α).result = .ok value := rfl

@[simp] theorem result_ofExcept (result : Except LaunchError α) :
    (ofExcept result).result = result := rfl

@[simp] theorem result_lift (result : Except LaunchError α) :
    (liftM result : Noted α).result = result := rfl

@[simp] theorem result_bind (first : Noted α) (next : α → Noted β) :
    (first >>= next).result = first.result >>= fun value => (next value).result := by
  show (andThen first next).result = _
  rw [andThen]
  split <;> rename_i same <;> rw [same] <;> rfl

@[simp] theorem result_note (severity : Severity) (text : String) :
    (note severity text).result = .ok () := rfl

@[simp] theorem result_fail (error : LaunchError) :
    (fail error : Noted α).result = .error error := rfl

end Noted

end TrainingLauncher
