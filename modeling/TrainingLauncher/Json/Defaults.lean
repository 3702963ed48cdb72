/-
Defaults as JSON values. Settings that are left open are left out.
-/

import TrainingLauncher.Defaults
import TrainingLauncher.Json.Cluster

namespace TrainingLauncher

open Json

/-- A member that is left out when there is no value. -/
def Json.optionalMember (name : String) (encode : α → Json) : Option α → List (String × Json)
  | none => []
  | some value => [(name, encode value)]

namespace Defaults

/-- The names of the settings, in their order. -/
def memberNames : List String :=
  ["log_level", "distributed_mode", "log_dir", "interpreter", "start_port", "ips", "gpus",
    "heter_worker_device"]

/-- Defaults as a JSON value. -/
def toJson (defaults : Defaults) : Json :=
  .object <|
    optionalMember "log_level" .text defaults.logLevel ++
    optionalMember "distributed_mode" (fun mode => .text mode.name) defaults.mode ++
    optionalMember "log_dir" .text defaults.logDir ++
    optionalMember "interpreter" .text defaults.interpreter ++
    optionalMember "start_port" ofPort defaults.startPort ++
    optionalMember "ips" .text defaults.ips ++
    optionalMember "gpus" .text defaults.gpus ++
    optionalMember "heter_worker_device" (fun kind => .text kind.name) defaults.heterWorkerDevice

/-- The defaults that a value is; a list has all members. -/
def ofJson? (json : Json) : Option Defaults := do
  let members ← json.record? memberNames memberNames.length
  let logLevel ← optional? members "log_level" text?
  let mode ← optional? members "distributed_mode" (choice? DistributedMode.ofName?)
  let logDir ← optional? members "log_dir" text?
  let interpreter ← optional? members "interpreter" text?
  let startPort ← optional? members "start_port" port?
  let ips ← optional? members "ips" text?
  let gpus ← optional? members "gpus" text?
  let heterWorkerDevice ←
    optional? members "heter_worker_device" (choice? DeviceKind.ofName?)
  return { logLevel, mode, logDir, interpreter, startPort, ips, gpus, heterWorkerDevice }

end Defaults

end TrainingLauncher
