/-
The variables that tell a process its role. Their names are the contract with the training program.
-/

import TrainingLauncher.Cluster
import TrainingLauncher.Environment

namespace TrainingLauncher.Environment

/-- The variables of a trainer in a collective job. -/
def ofTrainer (cluster : Cluster) (trainer : RoleProcess) : Environment :=
  ofList [
    ("FLAGS_selected_gpus", joinDevices trainer.devices),
    ("PADDLE_TRAINER_ID", toString trainer.rank),
    ("PADDLE_CURRENT_ENDPOINT", trainer.endpoint.text),
    ("PADDLE_TRAINERS_NUM", toString cluster.trainerCount),
    ("PADDLE_TRAINER_ENDPOINTS", Endpoint.join (cluster.endpoints .trainer)),
    ("TRAINING_ROLE", Role.trainer.tag)]

/-- The variables that bind a process to one device. -/
def affinityVariables : List String :=
  ["FLAGS_selected_gpus", "FLAGS_selected_xpus", "CUDA_VISIBLE_DEVICES", "XPU_VISIBLE_DEVICES"]

/-- What every process of a parameter-server job is told. -/
structure ServerJob where
  servers : String
  workers : String
  heterWorkers : String
  workerCount : Nat
  /-- The family of the accelerators of heter workers. -/
  heterDevice : DeviceKind
  /-- How many devices of that family the node has; processes take turns on them. -/
  deviceCount : Nat
  /-- The directory where the processes meet. -/
  rendezvous : String
  deriving DecidableEq, Repr

namespace ServerJob

/-- What the processes of a cluster are told. -/
def ofCluster (cluster : Cluster) (heterDevice : DeviceKind) (deviceCount : Nat)
    (rendezvous : String) : ServerJob where
  servers := Endpoint.join (cluster.endpoints .server)
  workers := Endpoint.join (cluster.endpoints .trainer)
  heterWorkers := Endpoint.join (cluster.endpoints .heterWorker)
  workerCount := cluster.trainerCount
  heterDevice := heterDevice
  deviceCount := deviceCount
  rendezvous := rendezvous

/-- The variables that all processes of a role have in common. -/
def common (job : ServerJob) (role : Role) : Environment :=
  (ofList [
    ("PADDLE_PSERVERS_IP_PORT_LIST", job.servers),
    ("PADDLE_TRAINER_ENDPOINTS", job.workers),
    ("PADDLE_HETER_TRAINER_IP_PORT_LIST", job.heterWorkers),
    ("PADDLE_HETER_TRAINER_DEVICE", job.heterDevice.name),
    ("PADDLE_TRAINERS_NUM", toString job.workerCount),
    ("TRAINING_ROLE", role.tag)]).under (Environment.rendezvous job.rendezvous)

/-- The variables that say where a process listens. -/
def listening (process : RoleProcess) : Environment :=
  ofList [
    ("PADDLE_PORT", toString process.endpoint.port.toNat),
    ("POD_IP", process.endpoint.host)]

/-- The variables that bind the process in a local slot to its device. -/
def affinity (job : ServerJob) (slot : Nat) : Environment :=
  ofList (affinityVariables.map fun name => (name, toString (slot % job.deviceCount)))

/-- The variables of the process in a local slot. A heter worker without a device is an error. -/
def environment (job : ServerJob) (role : Role) (process : RoleProcess) (slot : Nat) :
    Except LaunchError Environment :=
  match role with
  | .trainer =>
    let ranked := (job.common role).under (ofList [("PADDLE_TRAINER_ID", toString process.rank)])
    .ok (if job.deviceCount = 0 then ranked else ranked.under (job.affinity slot))
  | .server => .ok ((job.common role).under (listening process))
  | .heterWorker =>
    if job.deviceCount = 0 then
      .error (.config (.heterWorkerWithoutDevice process.rank job.heterDevice))
    else .ok (((job.common role).under (listening process)).under (job.affinity slot))

end ServerJob

end TrainingLauncher.Environment
