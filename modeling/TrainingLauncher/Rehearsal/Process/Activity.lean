/-
What a process does: it asks things of the system it runs on, one call after the other, and ends
with a value. An activity is a tree like a program of the launcher, with calls in place of
requests. The processes that one starts have tasks, which are data; the system knows how a task
begins.
-/

import TrainingLauncher.Rehearsal.FileTree
import TrainingLauncher.Rehearsal.Signal

namespace TrainingLauncher.Rehearsal

/-- How a process opens a file. -/
structure OpenMode where
  reads : Bool
  writes : Bool
  /-- The file is created if it is missing. -/
  creates : Bool
  /-- The file must not be there. -/
  excludes : Bool
  /-- The file is emptied. -/
  empties : Bool
  /-- Everything is written to the end. -/
  appends : Bool

namespace OpenMode

def reading : OpenMode := ⟨true, false, false, false, false, false⟩
def replacing : OpenMode := ⟨false, true, true, false, true, false⟩
def appending : OpenMode := ⟨false, true, true, false, false, true⟩
def updating : OpenMode := ⟨true, true, true, false, false, false⟩
def fresh : OpenMode := ⟨false, true, true, true, true, false⟩

end OpenMode

/-- What a process arranges for a signal. -/
inductive Arrangement where
  | standard
  | ignored
  /-- The process is told of the signal. -/
  | caught
  deriving DecidableEq, Repr

/-- How a process has ended. -/
inductive Ending where
  | exited (status : Nat)
  | killed (signal : Signal)
  deriving DecidableEq, Repr

/-- The status by which a shell knows how a process has ended. -/
def Ending.status : Ending → Nat
  | exited status => status
  | killed signal => 128 + signal.number

/-- What stands under a path. -/
inductive FileView where
  | directory (names : List String)
  | file (size : Nat) (executable : Bool)
  | device
  deriving DecidableEq, Repr

/-- A change of the files. -/
inductive FileChange where
  | makeDirectory (path : String)
  | removeDirectory (path : String)
  | removeFile (path : String)
  | move (path other : String)
  | setExecutable (path : String) (executable : Bool)

/-- What a process learns that waits for a child. -/
inductive Waited where
  | ended (pid : Nat) (ending : Ending)
  /-- No child has ended yet. -/
  | running
  /-- A signal that the process has arranged to be told of came first. -/
  | interrupted
  /-- There is no child. -/
  | childless
  deriving DecidableEq, Repr

/-- How a process waits. -/
inductive Waiting where
  /-- Not at all. -/
  | never
  /-- Until a child ends. -/
  | steadily
  /-- Until a child ends or a signal comes. -/
  | untilSignal
  deriving DecidableEq, Repr

/-- A call to the system, by a process whose children have tasks of a type. Files that are open have
numbers, the descriptors. Paths and words are texts of octets. -/
inductive Call (τ : Type) where
  | open (path : String) (mode : OpenMode)
  | close (descriptor : Nat)
  /-- Has a descriptor stand for what another one stands for. -/
  | duplicate (source target : Nat)
  /-- Another descriptor for an open file, at least ten, that a program does not inherit. -/
  | keep (descriptor : Nat)
  /-- A pipe: a descriptor to read from and one to write to. -/
  | pipe
  /-- Reads some bytes; none at the end. -/
  | read (descriptor limit : Nat)
  | write (descriptor : Nat) (bytes : ByteArray)
  | view (path : String)
  | change (change : FileChange)
  | enter (directory : String)
  /-- The directory that the process is in. -/
  | whereabouts
  /-- The ids of the process and of its parent. -/
  | identity
  | fork (task : τ)
  /-- Runs a program in place of what the process does. -/
  | execute (path : String) (words environment : List String)
  | wait (waiting : Waiting)
  /-- Sends a signal; the number zero only asks whether there is such a process. -/
  | send (pid : Nat) (signal : Signal)
  | arrange (signal : Signal) (arrangement : Arrangement)
  /-- The signals that have come and that the process has arranged to be told of. -/
  | notices
  | sleep (milliseconds : Nat)

/-- What a call is answered with. -/
abbrev Call.Answer : Call τ → Type
  | «open» _ _ => Except IoError Nat
  | close _ => Unit
  | duplicate _ _ => Except IoError Unit
  | keep _ => Except IoError Nat
  | pipe => Nat × Nat
  | read _ _ => Except IoError ByteArray
  | write _ _ => Except IoError Unit
  | view _ => Except IoError FileView
  | change _ => Except IoError Unit
  | enter _ => Except IoError Unit
  | whereabouts => String
  | identity => Nat × Nat
  | fork _ => Nat
  | execute _ _ _ => IoError
  | wait _ => Waited
  | send _ _ => Except IoError Unit
  | arrange _ _ => Arrangement
  | notices => List Signal
  | sleep _ => Unit

/-- A computation that makes calls. -/
inductive Activity (τ α : Type) where
  | done (value : α)
  | ask (call : Call τ) (next : call.Answer → Activity τ α)

namespace Activity

/-- Goes on with `next` once the first activity is done. -/
def andThen : Activity τ α → (α → Activity τ β) → Activity τ β
  | done value, next => next value
  | ask call rest, next => ask call fun answer => (rest answer).andThen next

instance : Monad (Activity τ) where
  pure := done
  bind := andThen

/-- The activity that makes one call. -/
def call (call : Call τ) : Activity τ call.Answer := ask call done

theorem andThen_done (activity : Activity τ α) : activity.andThen done = activity := by
  induction activity with
  | done value => rfl
  | ask call next ih => rw [andThen]; congr 1; funext answer; exact ih answer

theorem andThen_assoc (activity : Activity τ α) (first : α → Activity τ β)
    (second : β → Activity τ γ) :
    (activity.andThen first).andThen second =
      activity.andThen fun value => (first value).andThen second := by
  induction activity with
  | done value => rfl
  | ask call next ih => simp only [andThen]; congr 1; funext answer; exact ih answer

instance : LawfulMonad (Activity τ) := LawfulMonad.mk'
  (Activity τ)
  (fun activity => andThen_done activity)
  (fun _ _ => rfl)
  (fun activity first second => andThen_assoc activity first second)

end Activity

end TrainingLauncher.Rehearsal
