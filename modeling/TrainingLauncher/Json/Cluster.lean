/-
Clusters as JSON values.
-/

import TrainingLauncher.Cluster
import TrainingLauncher.Json

namespace TrainingLauncher

open Json

/-- A port as a JSON value. -/
def Json.ofPort (port : Port) : Json := .integer port.toNat

/-- The port that a value is. -/
def Json.port? (json : Json) : Option Port := (json.natural? Decimal.limit16).map UInt16.ofNat

/-- A count as a JSON value. -/
def Json.ofCount (count : Nat) : Json := .integer count

/-- The count of 64 bits that a value is. -/
def Json.count? (json : Json) : Option Nat := json.natural? Decimal.limit64

/-- Devices as a JSON value. -/
def Json.ofDevices (devices : List DeviceId) : Json :=
  .list (devices.map fun device => .integer device.toNat)

/-- The devices that a value is. -/
def Json.devices? (json : Json) : Option (List DeviceId) :=
  json.list? fun item => (item.natural? Decimal.limit32).map UInt32.ofNat

/-- An endpoint as a JSON value. -/
def Endpoint.toJson (endpoint : Endpoint) : Json :=
  .object [("host", .text endpoint.host), ("port", ofPort endpoint.port)]

/-- The endpoint that a value is. -/
def Endpoint.ofJson? (json : Json) : Option Endpoint := do
  let members ← json.record? ["host", "port"] 2
  let host ← required? members "host" text?
  let port ← required? members "port" port?
  return ⟨host, port⟩

/-- A process as a JSON value. -/
def RoleProcess.toJson (process : RoleProcess) : Json :=
  .object [
    ("devices", ofDevices process.devices),
    ("endpoint", process.endpoint.toJson),
    ("rank", ofCount process.rank)]

/-- The process that a value is. -/
def RoleProcess.ofJson? (json : Json) : Option RoleProcess := do
  let members ← json.record? ["devices", "endpoint", "rank"] 3
  let devices ← required? members "devices" devices?
  let endpoint ← required? members "endpoint" Endpoint.ofJson?
  let rank ← required? members "rank" count?
  return ⟨devices, endpoint, rank⟩

/-- A pod as a JSON value. -/
def Pod.toJson (pod : Pod) : Json :=
  .object [
    ("addr", .text pod.address),
    ("devices", ofDevices pod.devices),
    ("heter_workers", .list (pod.heterWorkers.map RoleProcess.toJson)),
    ("id", .text pod.id),
    ("port", ofOption ofPort pod.port),
    ("rank", ofCount pod.rank),
    ("servers", .list (pod.servers.map RoleProcess.toJson)),
    ("trainers", .list (pod.trainers.map RoleProcess.toJson))]

/-- The pod that a value is. -/
def Pod.ofJson? (json : Json) : Option Pod := do
  let members ← json.record?
    ["rank", "id", "addr", "port", "trainers", "servers", "heter_workers", "devices"] 8
  let rank ← required? members "rank" count?
  let id ← required? members "id" text?
  let address ← required? members "addr" text?
  let port ← optional? members "port" port?
  let trainers ← required? members "trainers" (list? RoleProcess.ofJson?)
  let servers ← required? members "servers" (list? RoleProcess.ofJson?)
  let heterWorkers ← required? members "heter_workers" (list? RoleProcess.ofJson?)
  let devices ← required? members "devices" devices?
  return ⟨rank, id, address, port, trainers, servers, heterWorkers, devices⟩

/-- A cluster as a JSON value. -/
def Cluster.toJson (cluster : Cluster) : Json :=
  .object [
    ("job_server", ofOption Endpoint.toJson cluster.jobServer),
    ("job_stage", ofOption .text cluster.jobStage),
    ("pods", .list (cluster.pods.map Pod.toJson))]

/-- The cluster that a value is. -/
def Cluster.ofJson? (json : Json) : Option Cluster := do
  let members ← json.record? ["pods", "job_server", "job_stage"] 3
  let pods ← required? members "pods" (list? Pod.ofJson?)
  let jobServer ← optional? members "job_server" Endpoint.ofJson?
  let jobStage ← optional? members "job_stage" text?
  return ⟨pods, jobServer, jobStage⟩

/-- A cluster and the position of the local node's pod, as a JSON value. -/
def Cluster.toJsonWith (cluster : Cluster) (podIndex : Nat) : Json :=
  .object [("cluster", cluster.toJson), ("pod_index", ofCount podIndex)]

end TrainingLauncher
