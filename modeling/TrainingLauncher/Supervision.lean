/-
Supervision of the local processes, in passes with a pause between them. A pass forwards what the
observed process has logged and polls every process. It goes wrong when a process has failed or
cannot be polled; then all of them are stopped. Supervision ends well when no process runs any more
whose role keeps the job alive.
-/

import TrainingLauncher.LogTail
import TrainingLauncher.Termination

namespace TrainingLauncher

/-- Why a run has not ended well. -/
inductive Stop where
  | failed (error : LaunchError)
  /-- The passes that were allowed are used up, and the processes run on. -/
  | unfinished
  deriving DecidableEq, Repr

/-- How the local processes are supervised. -/
structure Watchdog where
  /-- The pause between two passes, in milliseconds. -/
  interval : Nat
  termination : TerminationPolicy
  /-- The operator may ask the launcher to stop. -/
  interruptible : Bool
  deriving DecidableEq, Repr

namespace Supervision

/-- The pause between two passes unless another one is asked for, in milliseconds. -/
def standardInterval : Nat := 3000

/-- What a pass has found out. -/
structure Survey where
  /-- A process runs whose role keeps the job alive. -/
  alive : Bool
  /-- The processes that have ended with an exit code other than zero. -/
  failed : List FailedProcess
  deriving DecidableEq, Repr

/-- Forwards the log of a process if it is the observed one; a failure is only reported. -/
def forwardLog (handle : Handle) : Program Handle := do
  if handle.isObserved then
    match ← LogTail.pull handle with
    | (.ok (), pulled) => return pulled
    | (.error _, pulled) =>
      Program.report .warn "failed to forward worker log"
      return pulled
  else return handle

/-- Adds a process to a survey. -/
def Survey.add (survey : Survey) (keepsAlive : Role → Bool) (handle : Handle) :
    Option Int → Survey
  | none => { survey with alive := keepsAlive handle.role || survey.alive }
  | some code =>
    if code = 0 then survey else { survey with failed := handle.failure code :: survey.failed }

/-- Reports a process that has failed. -/
def reportFailure : Option Int → Program Unit
  | none => pure ()
  | some code =>
    if code = 0 then pure () else Program.report .warn "process exited with failure"

/-- Looks after every process. One that cannot be polled ends the pass, and what the pass has found
out so far is lost. -/
def survey (keepsAlive : Role → Bool) :
    List Handle → Program (Except IoError Survey × List Handle)
  | [] => pure (.ok ⟨false, []⟩, [])
  | handle :: rest => do
    let handle ← forwardLog handle
    match ← handle.poll with
    | .error error => return (.error error, handle :: rest)
    | .ok status =>
      reportFailure status
      let (found, others) ← survey keepsAlive rest
      return (found.map (·.add keepsAlive handle status), handle :: others)

/-- One pass; the answer is whether the job is still alive. -/
def pass (keepsAlive : Role → Bool) (nranks : Nat) (handles : List Handle) :
    Program (Except LaunchError Bool × List Handle) := do
  match ← survey keepsAlive handles with
  | (.error error, handles) => return (.error (.io error), handles)
  | (.ok found, handles) =>
    match found.failed with
    | [] => return (.ok found.alive, handles)
    | failed => return (.error (.roleProcessFailure failed nranks), handles)

/-- Stops every process because of an error. That they could not be stopped is only reported. -/
def abort (policy : TerminationPolicy) (handles : List Handle) (error : LaunchError) :
    Program (LaunchError × List Handle) := do
  match ← Termination.run policy handles with
  | (.ok (), handles) => return (error, handles)
  | (.error _, handles) =>
    Program.report .error "failed to stop local processes"
    return (error, handles)

/-- Stops every process because a pass went wrong. -/
def abortPass (policy : TerminationPolicy) (handles : List Handle) (error : LaunchError) :
    Program (LaunchError × List Handle) := do
  Program.report .error ("ABORT!!! " ++ error.message)
  abort policy handles error

/-- A single pass in which every process keeps the job alive. -/
def watch (policy : TerminationPolicy) (nranks : Nat) (handles : List Handle) :
    Program (Except LaunchError Bool × List Handle) := do
  match ← pass (fun _ => true) nranks handles with
  | (.ok alive, handles) => return (.ok alive, handles)
  | (.error error, handles) =>
    let (error, handles) ← abortPass policy handles error
    return (.error error, handles)

end Supervision

namespace Watchdog

/-- Has the operator asked the launcher to stop? Only an interruptible launcher looks. -/
def isInterrupted (watchdog : Watchdog) : Program Bool :=
  if watchdog.interruptible then Program.request .interrupted else pure false

/-- Passes, at most so many as allowed, until no process keeps the job alive. Failures of any
process stop them all. -/
def runUntil (watchdog : Watchdog) (keepsAlive : Role → Bool) (nranks : Nat) :
    Nat → List Handle → Program (Except Stop Unit × List Handle)
  | 0, handles => pure (.error .unfinished, handles)
  | passes + 1, handles => do
    if ← watchdog.isInterrupted then
      Program.report .warn "interrupted, stopping local processes"
      let (error, handles) ← Supervision.abort watchdog.termination handles .interrupted
      return (.error (.failed error), handles)
    else
      match ← Supervision.pass keepsAlive nranks handles with
      | (.ok true, handles) =>
        Program.request (.sleep watchdog.interval)
        watchdog.runUntil keepsAlive nranks passes handles
      | (.ok false, handles) => return (.ok (), handles)
      | (.error error, handles) =>
        let (error, handles) ← Supervision.abortPass watchdog.termination handles error
        return (.error (.failed error), handles)

/-- Passes until every process has ended well. -/
def run (watchdog : Watchdog) (nranks passes : Nat) (handles : List Handle) :
    Program (Except Stop Unit × List Handle) :=
  watchdog.runUntil (fun _ => true) nranks passes handles

end Watchdog

end TrainingLauncher
