/-
The options of the command line that take a value, and what their values mean. No option may be
given twice.
-/

import TrainingLauncher.Defaults

namespace TrainingLauncher.CommandLine

/-- What is wrong with the words of a command line, or what they ask for instead of a run. -/
inductive UsageFault where
  /-- There are no words at all. -/
  | nothingGiven
  | helpAsked
  | versionAsked
  | missingSubcommand
  | unknownSubcommand
  | unknownArgument
  /-- An argument that must be given is not. -/
  | missingArgument
  | repeatedOption
  /-- An option has no value, or an empty one where that makes no sense. -/
  | missingValue
  /-- A flag has a value. -/
  | unwantedValue
  /-- The value of an option cannot be read. -/
  | invalidValue
  deriving DecidableEq, Repr

/-- The exit code of a launcher that stops with the fault. -/
def UsageFault.exitCode : UsageFault → Nat
  | helpAsked | versionAsked => 0
  | _ => 2

/-- An option that takes a value. -/
inductive Setting where
  | logLevel
  | mode
  | logDir
  | interpreter
  | ips
  | gpus
  | startPort
  | nodeIp
  | servers
  | serverCount
  | workers
  | workerCount
  | heterWorkers
  | heterWorkerCount
  | heterWorkerDevice
  deriving DecidableEq, Repr

namespace Setting

/-- The names of an option, without the dashes before them. -/
def names : Setting → List String
  | logLevel => ["log-level"]
  | mode => ["distributed-mode", "distributed_mode"]
  | logDir => ["log-dir", "log_dir"]
  | interpreter => ["interpreter"]
  | ips => ["ips"]
  | gpus => ["gpus", "selected_gpus"]
  | startPort => ["start-port"]
  | nodeIp => ["node-ip"]
  | servers => ["servers"]
  | serverCount => ["server-num", "server_num"]
  | workers => ["workers"]
  | workerCount => ["worker-num", "worker_num"]
  | heterWorkers => ["heter-workers", "heter_workers"]
  | heterWorkerCount => ["heter-worker-num", "heter_worker_num"]
  | heterWorkerDevice => ["heter-worker-device", "heter_worker_device"]

/-- The options that describe a job. -/
def ofJob : List Setting :=
  [mode, logDir, interpreter, ips, gpus, startPort, nodeIp, servers, serverCount, workers,
    workerCount, heterWorkers, heterWorkerCount, heterWorkerDevice]

end Setting

/-- What the options say. -/
structure Options where
  /-- The settings that can also be stored. -/
  stored : Defaults
  nodeIp : Option String
  servers : ParameterServer.RoleSpec
  workers : ParameterServer.RoleSpec
  heterWorkers : ParameterServer.RoleSpec
  /-- The stored defaults are to be replaced. -/
  save : Bool
  deriving DecidableEq, Repr

namespace Options

/-- No option is given. -/
def empty : Options where
  stored := .empty
  nodeIp := none
  servers := .unset
  workers := .unset
  heterWorkers := .unset
  save := false

section Values

/-- Reads a path, which is not empty. -/
def path (word : String) : Except UsageFault String :=
  if word.isEmpty then .error .missingValue else .ok word

/-- Reads a count of 64 bits. -/
def count (word : String) : Except UsageFault Nat :=
  (Decimal.read Decimal.limit64 word).mapError fun _ => .invalidValue

/-- Reads a port. Zero may have a minus sign. -/
def port (word : String) : Except UsageFault Port :=
  match word.toList with
  | '-' :: digits =>
    if !digits.isEmpty && digits.all (· == '0') then .ok 0 else .error .invalidValue
  | chars =>
    match Decimal.readChars Decimal.limit16 chars with
    | .ok value => .ok (UInt16.ofNat value)
    | .error _ => .error .invalidValue

/-- Reads a mode. -/
def mode (word : String) : Except UsageFault DistributedMode :=
  (DistributedMode.parse word).mapError fun _ => .invalidValue

/-- Reads a kind of device. -/
def device (word : String) : Except UsageFault DeviceKind :=
  (DeviceKind.parse word).mapError fun _ => .invalidValue

end Values

/-- Fills in what is still open. -/
def fill (current : Option α) (value : Except UsageFault α) : Except UsageFault (Option α) :=
  if current.isSome then .error .repeatedOption else value.map some

/-- The options with a further one. -/
def set (options : Options) (setting : Setting) (word : String) : Except UsageFault Options := do
  match setting with
  | .logLevel => return { options with
      stored.logLevel := ← fill options.stored.logLevel (.ok word) }
  | .mode => return { options with
      stored.mode := ← fill options.stored.mode (mode word) }
  | .logDir => return { options with
      stored.logDir := ← fill options.stored.logDir (path word) }
  | .interpreter => return { options with
      stored.interpreter := ← fill options.stored.interpreter (.ok word) }
  | .ips => return { options with
      stored.ips := ← fill options.stored.ips (.ok word) }
  | .gpus => return { options with
      stored.gpus := ← fill options.stored.gpus (.ok word) }
  | .startPort => return { options with
      stored.startPort := ← fill options.stored.startPort (port word) }
  | .nodeIp => return { options with
      nodeIp := ← fill options.nodeIp (.ok word) }
  | .servers => return { options with
      servers.endpoints := ← fill options.servers.endpoints (.ok word) }
  | .serverCount => return { options with
      servers.count := ← fill options.servers.count (count word) }
  | .workers => return { options with
      workers.endpoints := ← fill options.workers.endpoints (.ok word) }
  | .workerCount => return { options with
      workers.count := ← fill options.workers.count (count word) }
  | .heterWorkers => return { options with
      heterWorkers.endpoints := ← fill options.heterWorkers.endpoints (.ok word) }
  | .heterWorkerCount => return { options with
      heterWorkers.count := ← fill options.heterWorkers.count (count word) }
  | .heterWorkerDevice => return { options with
      stored.heterWorkerDevice := ← fill options.stored.heterWorkerDevice (device word) }

/-- The settings to be stored, or to stand in for stored ones, at a level of detail in the log. -/
def asDefaults (options : Options) (logLevel : Option String) : Defaults :=
  { options.stored with logLevel }

/-- The job of a script: the settings come from `defaults`, which the options are part of already;
the node and the roles come from the options alone. -/
def launchConfig (options : Options) (defaults : Defaults) (script : String)
    (arguments : List String) : LaunchConfig :=
  { defaults.applyTo { LaunchConfig.ofScript script with trainingScriptArgs := arguments } with
    nodeIp := options.nodeIp
    servers := options.servers
    workers := options.workers
    heterWorkers := options.heterWorkers }

end Options

end TrainingLauncher.CommandLine
