/-
Processes that follow a script. A scripted process runs for a number of polls, or until it is
stopped, and counts the signals it gets. Its script may also have single requests fail.
-/

import TrainingLauncher.Program

namespace TrainingLauncher.Rehearsal

/-- How a process behaves. -/
structure Behavior where
  /-- How many polls find it running before it ends by itself; `none` if it never does. -/
  runsFor : Option Nat
  exitCode : Int
  stopsOnTerminate : Bool
  stopsOnKill : Bool
  /-- What it writes when it starts. -/
  output : ByteArray
  /-- It cannot be started, for this reason. -/
  spawnError : Option String
  /-- The polls, counted from zero, that fail. -/
  pollErrors : List Nat
  /-- It cannot be asked to stop, for this reason. -/
  terminateError : Option String
  /-- It cannot be stopped, for this reason. -/
  killError : Option String

/-- A process and what has happened to it. -/
structure ScriptedProcess where
  pid : Nat
  behavior : Behavior
  command : Command
  environment : Environment
  /-- How many polls there were, those that failed included. -/
  pollsAsked : Nat
  /-- How many polls found it running. -/
  polls : Nat
  exited : Option Int
  terminateCalls : Nat
  killCalls : Nat

namespace ScriptedProcess

/-- A process that has just started. -/
def start (pid : Nat) (behavior : Behavior) (command : Command) (environment : Environment) :
    ScriptedProcess where
  pid := pid
  behavior := behavior
  command := command
  environment := environment
  pollsAsked := 0
  polls := 0
  exited := none
  terminateCalls := 0
  killCalls := 0

/-- The exit code that a signal leaves: the negative number of the signal. -/
def terminateCode : Int := -15

/-- The exit code that a kill leaves. -/
def killCode : Int := -9

/-- A poll that reaches the process. One that has run long enough ends now. -/
def observe (process : ScriptedProcess) : ScriptedProcess :=
  match process.exited, process.behavior.runsFor with
  | some _, _ => process
  | none, some limit =>
    if process.polls ≥ limit then { process with exited := some process.behavior.exitCode }
    else { process with polls := process.polls + 1 }
  | none, none => { process with polls := process.polls + 1 }

/-- Polls the process. -/
def poll (process : ScriptedProcess) : Except IoError (Option Int) × ScriptedProcess :=
  let number := process.pollsAsked
  let asked := { process with pollsAsked := number + 1 }
  if process.behavior.pollErrors.contains number then
    (.error (.other s!"poll {number} failed"), asked)
  else
    let observed := asked.observe
    (.ok observed.exited, observed)

/-- Asks the process to stop. -/
def terminate (process : ScriptedProcess) : Except IoError Unit × ScriptedProcess :=
  match process.behavior.terminateError with
  | some text => (.error (.other text), process)
  | none =>
    let exited :=
      if process.behavior.stopsOnTerminate && process.exited.isNone then some terminateCode
      else process.exited
    (.ok (), { process with terminateCalls := process.terminateCalls + 1, exited })

/-- Stops the process. -/
def kill (process : ScriptedProcess) : Except IoError Unit × ScriptedProcess :=
  match process.behavior.killError with
  | some text => (.error (.other text), process)
  | none =>
    let exited :=
      if process.behavior.stopsOnKill && process.exited.isNone then some killCode
      else process.exited
    (.ok (), { process with killCalls := process.killCalls + 1, exited })

/-- Waits for the process to end; one that never ends by itself cannot be waited for. -/
def wait (process : ScriptedProcess) : Except IoError Int × ScriptedProcess :=
  match process.exited, process.behavior.runsFor with
  | some code, _ => (.ok code, process)
  | none, some _ =>
    (.ok process.behavior.exitCode, { process with exited := some process.behavior.exitCode })
  | none, none => (.error ⟨.wouldBlock, "fake process never exits on its own"⟩, process)

/-- The process ends with a code. -/
def finish (process : ScriptedProcess) (code : Int) : ScriptedProcess :=
  { process with exited := some code }

end ScriptedProcess

end TrainingLauncher.Rehearsal
