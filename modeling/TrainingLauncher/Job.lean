/-
A job from its description to its end. The local processes are started, supervised until they are
finished, have failed or the operator interrupts them, and find a directory to meet in for as long
as they run.
-/

import TrainingLauncher.LaunchConfig
import TrainingLauncher.Startup
import TrainingLauncher.Supervision

namespace TrainingLauncher

/-- The surroundings of a job. -/
structure JobContext where
  node : Node
  /-- The environment that every process inherits. -/
  base : Environment
  watchdog : Watchdog

namespace Job

/-- How the name of the directory starts in which the processes meet. -/
def rendezvousStem : String := "fleetrun-gloo-"

/-- A program that may stop early. -/
abbrev Run (α : Type) := ExceptT Stop Program α

/-- A step of a run that may fail. -/
def attempt (step : Program (Except LaunchError α)) : Run α := ExceptT.mk do
  return (← step).mapError .failed

/-- Tells the operator something. -/
def report (severity : Severity) (text : String) : Run Unit :=
  ExceptT.lift (Program.report severity text)

/-- The directory exists while `body` runs and is removed afterwards. When `body` has failed, its
error is the answer, whatever becomes of the directory; while processes run on, it stays. -/
def withRendezvous (body : String → Run Unit) : Run Unit := ExceptT.mk do
  match ← Program.request (.createRendezvous rendezvousStem) with
  | .error error => return .error (.failed (.io error))
  | .ok directory =>
    match ← (body directory).run with
    | .error .unfinished => return .error .unfinished
    | .error (.failed error) =>
      let _ ← Program.request (.removeRendezvous directory)
      return .error (.failed error)
    | .ok () =>
      match ← Program.request (.removeRendezvous directory) with
      | .error error => return .error (.failed (.io error))
      | .ok () => return .ok ()

/-- Starts processes; they are the answer. -/
def start (startup : Program (Except LaunchError Unit × List Handle)) : Run (List Handle) :=
  ExceptT.mk do
    match ← startup with
    | (.ok (), handles) => return .ok handles
    | (.error error, _) => return .error (.failed error)

/-- Supervises processes; the answer is what is known of them at the end. -/
def supervise (supervision : Program (Except Stop Unit × List Handle)) : Run (List Handle) :=
  ExceptT.mk do
    match ← supervision with
    | (.ok (), handles) => return .ok handles
    | (.error stop, _) => return .error stop

/-- The pod at a position. -/
def podAt (cluster : Cluster) (index : Nat) : Pod := cluster.pods.getD index (.empty index "")

/-- The launcher of a job. -/
def launcher (config : LaunchConfig) (context : JobContext) : Launcher :=
  .new config.command config.logDir context.base 0

/-- Runs a collective job: one trainer for each device of every node. -/
def runCollective (config : LaunchConfig) (context : JobContext) (passes : Nat) : Run Unit := do
  let (cluster, index) ← attempt (Program.ofNoted (config.collectiveTopology context.node))
  withRendezvous fun directory => do
    let handles ← start <| (launcher config context).startTrainers cluster (podAt cluster index)
      (.rendezvous directory)
    let _ ← supervise (context.watchdog.run cluster.trainerCount passes handles)
    report .info "local processes completed"

/-- Workers keep a parameter-server job alive; on a node without workers every process does. -/
def keepsAlive (pod : Pod) (role : Role) : Bool := pod.trainers.isEmpty || role == .trainer

/-- What the processes of a parameter-server job are told. -/
def serverJob (config : LaunchConfig) (context : JobContext) (cluster : Cluster)
    (directory : String) : Environment.ServerJob :=
  .ofCluster cluster config.heterWorkerDevice
    (Devices.detect config.heterWorkerDevice context.node.environment context.node.deviceFiles)
    directory

/-- Stops the processes that still run when the workers are done. -/
def stopServers (policy : TerminationPolicy) (handles : List Handle) : Run Unit := do
  report .info "all workers exited, stopping servers and heter workers"
  attempt do return (← Termination.run policy handles).1
  report .info "all servers and heter workers are stopped"

/-- Runs the servers, workers and heter workers of the node. Once no worker runs any more, the other
processes are stopped. -/
def runServers (config : LaunchConfig) (context : JobContext) (passes : Nat) : Run Unit := do
  let (cluster, index) ← attempt (pure (config.serverDescription.build context.node.resolver))
  let pod := podAt cluster index
  withRendezvous fun directory => do
    let handles ← start <| (launcher config context).startServerRoles cluster pod
      (serverJob config context cluster directory)
    let handles ← supervise <|
      context.watchdog.runUntil (keepsAlive pod) cluster.trainerCount passes handles
    stopServers context.watchdog.termination handles

/-- The rank of the node that the scheduler tells, zero if it tells none. -/
def scheduledRank (environment : Environment) : Nat :=
  (Scheduler.numberOf? Decimal.limit64 environment "PADDLE_TRAINER_ID").getD 0

/-- Runs the command once, in the environment as it is: the scheduler has placed the role of the
process already. -/
def runDirectly (config : LaunchConfig) (context : JobContext) (passes : Nat) : Run Unit := do
  report .info "scheduler placed this role, starting it directly"
  let rank := scheduledRank context.node.environment
  let pid ← attempt do
    return (← Program.request (.spawn 0 config.command context.base .inherit)).mapError (.spawn 0)
  let handle : Handle := {
    child := 0, pid, rank
    role := .trainer
    slot := 0
    logPath := none
    logOpen := false
    logOffset := 0 }
  let _ ← supervise <|
    context.watchdog.run (Scheduler.trainerCount context.node.environment) passes [handle]

/-- A scheduler has placed the roles of a parameter-server job. -/
def isPlaced (config : LaunchConfig) (node : Node) : Bool :=
  Scheduler.isPresent node.environment && (config.mode == .ps || config.mode == .unset)

/-- Runs the job of a description, with so many passes of supervision at most. -/
def launch (config : LaunchConfig) (context : JobContext) (passes : Nat) : Run Unit := do
  report config.kindNote.severity config.kindNote.text
  match config.kind with
  | .collective => runCollective config context passes
  | .parameterServer =>
    if isPlaced config context.node then runDirectly config context passes
    else runServers config context passes

end Job

end TrainingLauncher
