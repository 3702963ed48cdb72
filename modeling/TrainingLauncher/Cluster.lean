/-
The topology of a job: a cluster of pods, one per node, and the processes placed on each of them.
Every node derives the same cluster from the same description, so all of it is plain data.
-/

import TrainingLauncher.Endpoint

namespace TrainingLauncher

open Text

/-- The number of an accelerator, as a process sees it. -/
abbrev DeviceId := UInt32

/-- The numbers of a list of devices, with commas. -/
def joinDevices (devices : List DeviceId) : String :=
  joined "," (devices.map fun device => toString device.toNat)

/-- A list of devices between square brackets. -/
def showDevices (devices : List DeviceId) : String :=
  bracketed (devices.map fun device => toString device.toNat)

/-- One participant of the job. -/
structure RoleProcess where
  /-- The devices the process owns: one in a collective job, none in a parameter-server job. -/
  devices : List DeviceId
  endpoint : Endpoint
  /-- The rank within the role class, over the whole job. -/
  rank : Nat
  deriving DecidableEq, Repr

/-- The process in words. -/
def RoleProcess.text (process : RoleProcess) : String :=
  s!"devices:{showDevices process.devices} endpoint:{process.endpoint.text} rank:{process.rank}"

/-- The share of the job that runs on one node. -/
structure Pod where
  rank : Nat
  id : String
  address : String
  port : Option Port
  trainers : List RoleProcess
  servers : List RoleProcess
  heterWorkers : List RoleProcess
  devices : List DeviceId
  deriving DecidableEq, Repr

namespace Pod

/-- A pod with nothing placed on it. -/
def empty (rank : Nat) (address : String) : Pod where
  rank := rank
  id := toString rank
  address := address
  port := none
  trainers := []
  servers := []
  heterWorkers := []
  devices := []

/-- The processes of a role class that are placed on the pod. -/
def processes (pod : Pod) : Role → List RoleProcess
  | .trainer => pod.trainers
  | .server => pod.servers
  | .heterWorker => pod.heterWorkers

/-- The devices of the pod, with commas; a pod without devices is an error. -/
def visibleDevices (pod : Pod) : Except LaunchError String :=
  if pod.devices.isEmpty then .error (.config (.podWithoutDevices pod.rank pod.address))
  else .ok (joinDevices pod.devices)

/-- The processes of a list in words, each between square brackets. -/
def showProcesses (processes : List RoleProcess) : String :=
  joined " " (processes.map fun process => "[" ++ process.text ++ "]")

/-- The pod in words. -/
def text (pod : Pod) : String :=
  let port := showOption (pod.port.map fun port => toString port.toNat)
  s!"rank:{pod.rank} id:{pod.id} addr:{pod.address} port:{port} " ++
    s!"visible_devices:{showDevices pod.devices} trainers:{showProcesses pod.trainers} " ++
    s!"servers:{showProcesses pod.servers} heter_workers:{showProcesses pod.heterWorkers}"

end Pod

/-- The topology of one training job. -/
structure Cluster where
  /-- The pods in the order of their ranks. -/
  pods : List Pod
  /-- A server that coordinates the job. -/
  jobServer : Option Endpoint
  jobStage : Option String
  deriving DecidableEq, Repr

namespace Cluster

/-- A cluster without a job server and a job stage. -/
def ofPods (pods : List Pod) : Cluster := ⟨pods, none, none⟩

/-- Two clusters agree when they differ at most in their job server. -/
def agrees (one other : Cluster) : Bool :=
  decide (one.pods = other.pods ∧ one.jobStage = other.jobStage)

/-- The processes of a role class, pod by pod. -/
def processes (cluster : Cluster) (role : Role) : List RoleProcess :=
  cluster.pods.flatMap (·.processes role)

/-- How many trainers the job has. -/
def trainerCount (cluster : Cluster) : Nat := (cluster.processes .trainer).length

/-- The endpoints of a role class in the order of the ranks; equal ranks keep the pods' order. -/
def endpoints (cluster : Cluster) (role : Role) : List Endpoint :=
  ((cluster.processes role).mergeSort fun one other => one.rank ≤ other.rank).map (·.endpoint)

/-- The address and port at which a pod listens. -/
def podEndpoint (pod : Pod) : Except LaunchError Endpoint :=
  match pod.port with
  | some port => .ok ⟨pod.address, port⟩
  | none => .error (.config (.podWithoutPort pod.rank))

/-- Where every pod listens; a pod without a port is an error. -/
def podEndpoints (cluster : Cluster) : Except LaunchError (List Endpoint) :=
  cluster.pods.mapM podEndpoint

/-- The first pod with a given id. -/
def podWithId? (cluster : Cluster) (id : String) : Option Pod := cluster.pods.find? (·.id == id)

/-- The cluster in words. -/
def text (cluster : Cluster) : String :=
  let server := showOption (cluster.jobServer.map fun endpoint => quoted endpoint.text)
  let stage := showOption (cluster.jobStage.map quoted)
  let pods := String.join (cluster.pods.map fun pod => " \x7b" ++ pod.text ++ "\x7d")
  s!"job_server:{server} job_stage:{stage} pods:" ++ pods

end Cluster

end TrainingLauncher
