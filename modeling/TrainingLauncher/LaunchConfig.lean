/-
The description of a job, as the operator gives it, and the topology it stands for.
-/

import TrainingLauncher.Command
import TrainingLauncher.Devices
import TrainingLauncher.ParameterServer
import TrainingLauncher.Scheduler

namespace TrainingLauncher

open Text

/-- The kind of job that is asked for. -/
inductive DistributedMode where
  /-- The other settings decide. -/
  | unset
  | collective
  | ps
  | psHeter
  | psGpu
  deriving DecidableEq, Repr

namespace DistributedMode

/-- The mode as it is written. -/
def name : DistributedMode → String
  | unset => ""
  | collective => "collective"
  | ps => "ps"
  | psHeter => "ps_heter"
  | psGpu => "ps_gpu"

/-- Every mode. -/
def all : List DistributedMode := [unset, collective, ps, psHeter, psGpu]

/-- The mode with a given written form. -/
def ofName? (text : String) : Option DistributedMode := all.find? (·.name == text)

/-- The modes with parameter servers. -/
def isParameterServer : DistributedMode → Bool
  | ps | psHeter | psGpu => true
  | _ => false

/-- Reads a mode; blanks around it do not count. -/
def parse (source : String) : Except LaunchError DistributedMode :=
  let trimmed := trim source
  match ofName? trimmed with
  | some mode => .ok mode
  | none => .error (.config (.unknownMode trimmed))

end DistributedMode

/-- How a job is run. -/
inductive JobKind where
  | collective
  | parameterServer
  deriving DecidableEq, Repr

/-- Everything a launcher needs to run one job. -/
structure LaunchConfig where
  mode : DistributedMode
  /-- The directory of the log files; without one, processes share the launcher's output. -/
  logDir : Option String
  /-- The program that runs the training script, with its own arguments. -/
  interpreter : Option String
  trainingScript : String
  trainingScriptArgs : List String
  /-- The addresses of the nodes, with commas. -/
  ips : Option String
  /-- The devices to use, with commas. -/
  gpus : Option String
  /-- This node's address, when it is given. -/
  nodeIp : Option String
  startPort : Option Port
  servers : ParameterServer.RoleSpec
  workers : ParameterServer.RoleSpec
  heterWorkers : ParameterServer.RoleSpec
  heterWorkerDevice : DeviceKind
  deriving DecidableEq, Repr

namespace LaunchConfig

/-- The job that runs a script, with everything else left open. -/
def ofScript (script : String) : LaunchConfig where
  mode := .unset
  logDir := none
  interpreter := none
  trainingScript := script
  trainingScriptArgs := []
  ips := none
  gpus := none
  nodeIp := none
  startPort := none
  servers := .unset
  workers := .unset
  heterWorkers := .unset
  heterWorkerDevice := .gpu

/-- Something is said about a role of a parameter-server job. -/
def hasServerSettings (config : LaunchConfig) : Bool :=
  config.servers.isGiven || config.workers.isGiven || config.heterWorkers.isGiven

/-- Something is said about a collective job. -/
def hasCollectiveSettings (config : LaunchConfig) : Bool :=
  config.ips.isSome || config.gpus.isSome

/-- The kind of job: with parameter servers when the mode or any of their settings asks for it,
collective otherwise. -/
def kind (config : LaunchConfig) : JobKind :=
  if config.hasServerSettings || config.mode.isParameterServer then .parameterServer
  else .collective

/-- What the operator is told about the kind of job. -/
def kindNote (config : LaunchConfig) : Note :=
  match config.kind with
  | .parameterServer => ⟨.info, "run parameter-server mode"⟩
  | .collective =>
    if config.hasCollectiveSettings || config.mode == .collective then
      ⟨.info, "run collective mode"⟩
    else ⟨.warn, "no mode-specific arguments found, defaulting to collective mode"⟩

/-- The nodes of a collective job; the local host alone when none are given. -/
def nodes (config : LaunchConfig) : List String :=
  match splitAddresses (config.ips.getD "") with
  | [] => ["127.0.0.1"]
  | nodes => nodes

/-- The words of the interpreter, then the script and its arguments. -/
def command (config : LaunchConfig) : Command :=
  match words (config.interpreter.getD "") with
  | [] => .ofScript none config.trainingScript config.trainingScriptArgs
  | program :: options =>
    ⟨program, options ++ config.trainingScript :: config.trainingScriptArgs⟩

/-- The parameter-server job of the description; only the heterogeneous mode has heter workers. -/
def serverDescription (config : LaunchConfig) : ParameterServer.Description where
  servers := config.servers
  workers := config.workers
  heterWorkers := if config.mode = .psHeter then some config.heterWorkers else none
  explicit := config.nodeIp
  startPort := config.startPort

/-- The cluster of a collective job and the position of the local node's pod. A scheduler that
announces several trainers places the job itself. -/
def collectiveTopology (config : LaunchConfig) (node : Node) : Noted (Cluster × Nat) := do
  let devices ← Devices.select config.gpus node.environment[DeviceKind.gpu.maskVariable]?
    (Devices.detect .gpu node.environment node.deviceFiles)
  if Scheduler.isPresent node.environment && Scheduler.trainerCount node.environment != 1 then
    let placement ← Scheduler.Placement.ofEnvironment node.environment
    placement.build config.nodes devices config.startPort
  else
    let job : Collective.Description := {
      nodes := config.nodes
      explicit := config.nodeIp
      devices := devices
      startPort := config.startPort
      underScheduler := Scheduler.isPresent node.environment }
    job.build node.resolver node.probes

/-- The cluster the description stands for and the position of the local node's pod. -/
def topology (config : LaunchConfig) (node : Node) : Noted (Cluster × Nat) := do
  Noted.note config.kindNote.severity config.kindNote.text
  match config.kind with
  | .collective => config.collectiveTopology node
  | .parameterServer => config.serverDescription.build node.resolver

end LaunchConfig

end TrainingLauncher
