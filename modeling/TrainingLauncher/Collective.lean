/-
Collective jobs: every node runs one trainer for each of the selected devices. Ranks run node by
node and, on a node, device by device.
-/

import TrainingLauncher.Cluster
import TrainingLauncher.Node
import TrainingLauncher.PortBlock

namespace TrainingLauncher.Collective

/-- The trainers of a node, ranked from `first`: one per device, each at the endpoint in the same
position. -/
def trainersFrom (first : Nat) : List DeviceId → List Endpoint → List RoleProcess
  | device :: devices, endpoint :: endpoints =>
    ⟨[device], endpoint, first⟩ :: trainersFrom (first + 1) devices endpoints
  | _, _ => []

/-- The pod of a node, its trainers ranked from `first`. -/
def podFrom (first rank : Nat) (address : String) (devices : List DeviceId)
    (endpoints : List Endpoint) : Pod :=
  { Pod.empty rank address with
    trainers := trainersFrom first devices endpoints
    devices := devices }

/-- The pods of the nodes from `rank` on, the first of their trainers ranked `first`. A node with
fewer endpoints than devices is an error. -/
def podsFrom (devices : List DeviceId) (first rank : Nat) :
    List String → List (List Endpoint) → Except LaunchError (List Pod)
  | address :: addresses, endpoints :: lists =>
    if endpoints.length < devices.length then
      .error (.config (.fewEndpoints address endpoints.length devices.length))
    else do
      let pod := podFrom first rank address devices endpoints
      let others ← podsFrom devices (first + pod.trainers.length) (rank + 1) addresses lists
      return pod :: others
  | _, _ => .ok []

/-- The cluster of a collective job from one list of endpoints per node, with the position of the
local node's pod. -/
def assemble (nodes : List String) (localNode : String) (lists : List (List Endpoint))
    (devices : List DeviceId) : Except LaunchError (Cluster × Nat) := do
  if lists.length ≠ nodes.length then
    throw (.config (.endpointLists lists.length nodes.length))
  let pods ← podsFrom devices 0 0 nodes lists
  match nodes.idxOf? localNode with
  | some index => return (.ofPods pods, index)
  | none => throw (.config (.nodeNotListed (some localNode) nodes))

/-- A collective job as the operator describes it. -/
structure Description where
  nodes : List String
  /-- This node's address, when it is given. -/
  explicit : Option String
  devices : List DeviceId
  startPort : Option Port
  /-- A scheduler runs the launcher, so the nodes must not pick ports of their own. -/
  underScheduler : Bool
  deriving DecidableEq, Repr

namespace Description

/-- A job whose ports the machine is asked for: a single node without a scheduler and without a
start port. -/
def probesPorts (job : Description) : Bool :=
  !job.underScheduler && job.nodes.length ≤ 1 && job.startPort.isNone

/-- The ports of the trainers, the same on every node. -/
def ports (job : Description) (probes : List (Option Port)) : Noted (List Port) :=
  if job.probesPorts then PortBlock.allocate job.devices.length 0 none probes
  else PortBlock.ports (job.startPort.getD PortBlock.defaultStart) 0 job.devices.length

/-- The cluster of the job and the position of the local node's pod. -/
def build (job : Description) (resolver : Resolver) (probes : List (Option Port)) :
    Noted (Cluster × Nat) := do
  let (localNode, _) ← resolveNode job.nodes job.explicit resolver
  let ports ← job.ports probes
  let lists := job.nodes.map fun address => ports.map fun port => (⟨address, port⟩ : Endpoint)
  assemble job.nodes localNode lists job.devices

end Description

end TrainingLauncher.Collective
