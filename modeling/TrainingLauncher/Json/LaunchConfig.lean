/-
Job descriptions as JSON values.
-/

import TrainingLauncher.Json.Cluster
import TrainingLauncher.LaunchConfig

namespace TrainingLauncher

open Json

/-- A role's description as a JSON value. -/
def ParameterServer.RoleSpec.toJson (spec : ParameterServer.RoleSpec) : Json :=
  .object [("count", ofOption ofCount spec.count), ("endpoints", ofOption .text spec.endpoints)]

/-- The role's description that a value is. -/
def ParameterServer.RoleSpec.ofJson? (json : Json) : Option ParameterServer.RoleSpec := do
  let members ← json.record? ["count", "endpoints"] 2
  let count ← optional? members "count" count?
  let endpoints ← optional? members "endpoints" text?
  return ⟨count, endpoints⟩

namespace LaunchConfig

/-- The members of a description, in their order; those after the ninth may be left out at the end
of a list. -/
def memberNames : List String :=
  ["mode", "log_dir", "interpreter", "training_script", "training_script_args", "ips", "gpus",
    "node_ip", "start_port", "servers", "workers", "heter_workers", "heter_worker_device"]

/-- A description as a JSON value. -/
def toJson (config : LaunchConfig) : Json :=
  .object [
    ("gpus", ofOption .text config.gpus),
    ("heter_worker_device", .text config.heterWorkerDevice.name),
    ("heter_workers", config.heterWorkers.toJson),
    ("interpreter", ofOption .text config.interpreter),
    ("ips", ofOption .text config.ips),
    ("log_dir", ofOption .text config.logDir),
    ("mode", .text config.mode.name),
    ("node_ip", ofOption .text config.nodeIp),
    ("servers", config.servers.toJson),
    ("start_port", ofOption ofPort config.startPort),
    ("training_script", .text config.trainingScript),
    ("training_script_args", .list (config.trainingScriptArgs.map .text)),
    ("workers", config.workers.toJson)]

/-- The description that a value is. -/
def ofJson? (json : Json) : Option LaunchConfig := do
  let members ← json.record? memberNames 9
  let mode ← defaulted? members "mode" .unset (choice? DistributedMode.ofName?)
  let logDir ← optional? members "log_dir" text?
  let interpreter ← optional? members "interpreter" text?
  let trainingScript ← required? members "training_script" text?
  let trainingScriptArgs ← defaulted? members "training_script_args" [] (list? text?)
  let ips ← optional? members "ips" text?
  let gpus ← optional? members "gpus" text?
  let nodeIp ← optional? members "node_ip" text?
  let startPort ← optional? members "start_port" port?
  let servers ← defaulted? members "servers" .unset ParameterServer.RoleSpec.ofJson?
  let workers ← defaulted? members "workers" .unset ParameterServer.RoleSpec.ofJson?
  let heterWorkers ← defaulted? members "heter_workers" .unset ParameterServer.RoleSpec.ofJson?
  let heterWorkerDevice ←
    defaulted? members "heter_worker_device" .gpu (choice? DeviceKind.ofName?)
  return {
    mode, logDir, interpreter, trainingScript, trainingScriptArgs, ips, gpus, nodeIp, startPort,
    servers, workers, heterWorkers, heterWorkerDevice }

end LaunchConfig

end TrainingLauncher
