/-
Stopping the local processes. Those that still run are first asked to stop; after a grace period the
survivors are stopped by force, round after round, as often as the policy allows. A process that
cannot be asked whether it runs counts as running.
-/

import TrainingLauncher.Handle

namespace TrainingLauncher

/-- The timing of a termination, in milliseconds. -/
structure TerminationPolicy where
  /-- The pause after the processes have been asked to stop. -/
  grace : Nat
  /-- How many kill rounds there are at most. -/
  retries : Nat
  /-- The pause between kill rounds. -/
  interval : Nat
  deriving DecidableEq, Repr

namespace TerminationPolicy

/-- The timing unless another one is asked for. -/
def standard : TerminationPolicy := ⟨3000, 50, 3000⟩

end TerminationPolicy

namespace Termination

/-- Asks whether a process runs. -/
def isRunning (handle : Handle) : Program Bool := do
  match ← handle.poll with
  | .ok status => return status.isNone
  | .error _ =>
    Program.report .warn "failed to poll process"
    return true

/-- What the operator is told of a process that refuses to be stopped. -/
def refusal : Means → String
  | .ask => "failed to send SIGTERM"
  | .force => "failed to send SIGKILL"

/-- Stops a process; that it refuses is only reported. -/
def stopOne (means : Means) (handle : Handle) : Program Unit := do
  match ← handle.stop means with
  | .ok () => return ()
  | .error _ => Program.report .warn (refusal means)

/-- Stops every process that runs; the answer is whether there was one. -/
def stopAll (means : Means) : List Handle → Program Bool
  | [] => pure false
  | handle :: rest => do
    if ← isRunning handle then
      stopOne means handle
      let _ ← stopAll means rest
      return true
    else stopAll means rest

/-- The ids of the processes that run. -/
def survivors : List Handle → Program (List Nat)
  | [] => pure []
  | handle :: rest => do
    let running ← isRunning handle
    let others ← survivors rest
    return if running then handle.pid :: others else others

/-- Tells the operator that nothing runs any more. -/
def reportStopped : Program (Except LaunchError Unit) := do
  Program.report .info "terminated all local processes"
  return .ok ()

/-- Kill rounds until one finds nothing running. After the last one whatever runs is an error. -/
def killRounds (interval : Nat) (handles : List Handle) : Nat → Program (Except LaunchError Unit)
  | 0 => do
    match ← survivors handles with
    | [] => reportStopped
    | pids =>
      Program.report .error "can't kill all processes"
      return .error (.terminationTimeout pids)
  | rounds + 1 => do
    if ← stopAll .force handles then
      Program.request (.sleep interval)
      killRounds interval handles rounds
    else reportStopped

/-- Stops every process that still runs and closes all logs. Doing it twice does no harm: processes
that have ended are left alone. -/
def run (policy : TerminationPolicy) (handles : List Handle) :
    Program (Except LaunchError Unit × List Handle) := do
  let closed := handles.map Handle.closeLog
  if ← stopAll .ask handles then
    Program.request (.sleep policy.grace)
    return (← killRounds policy.interval handles policy.retries, closed)
  else return (.ok (), closed)

end Termination

end TrainingLauncher
