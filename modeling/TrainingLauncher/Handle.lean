/-
The launcher's hold on a child: what it keeps about each process it has started.
-/

import TrainingLauncher.Cluster
import TrainingLauncher.Program

namespace TrainingLauncher

/-- A started process and what its supervision needs to know. -/
structure Handle where
  /-- The number of the child. -/
  child : Nat
  /-- The process id, as the machine gave it. -/
  pid : Nat
  role : Role
  rank : Nat
  /-- The position among the local processes of the role. -/
  slot : Nat
  logPath : Option String
  /-- The launcher still holds the log file open. -/
  logOpen : Bool
  /-- How much of the log has been forwarded to the observer. -/
  logOffset : Nat
  deriving DecidableEq, Repr

/-- A way of stopping a process. -/
inductive Means where
  /-- It is asked to stop. -/
  | ask
  /-- It is stopped whether it will or not. -/
  | force
  deriving DecidableEq, Repr

namespace Handle

/-- The handle with its log closed. -/
def closeLog (handle : Handle) : Handle := { handle with logOpen := false }

/-- The process whose output the observer sees: the trainer in the first local slot, as long as its
log is open. -/
def isObserved (handle : Handle) : Bool :=
  handle.slot == 0 && handle.role == .trainer && handle.logOpen

/-- The process, as one that ended with an exit code. -/
def failure (handle : Handle) (code : Int) : FailedProcess := ⟨handle.role, handle.rank, code⟩

/-- Asks for the exit code of the process. -/
def poll (handle : Handle) : Program (Except IoError (Option Int)) :=
  Program.request (.poll handle.child)

/-- Asks the process to stop. -/
def terminate (handle : Handle) : Program (Except IoError Unit) :=
  Program.request (.terminate handle.child)

/-- Stops the process. -/
def kill (handle : Handle) : Program (Except IoError Unit) :=
  Program.request (.kill handle.child)

/-- Stops the process by one of the two means. -/
def stop (handle : Handle) : Means → Program (Except IoError Unit)
  | .ask => handle.terminate
  | .force => handle.kill

/-- Waits until the process ends. -/
def wait (handle : Handle) : Program (Except IoError Int) :=
  Program.request (.wait handle.child)

end Handle

end TrainingLauncher
