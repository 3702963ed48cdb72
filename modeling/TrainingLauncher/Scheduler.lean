/-
Jobs that an external scheduler places. The scheduler describes the placement in the environment of
the launchers it starts:

* `PADDLE_TRAINERS`: the addresses of the nodes, with commas
* `POD_IP`, `PADDLE_TRAINER_ID`: the address and the rank of this node
* `PADDLE_TRAINERS_NUM`: how many trainers the job has, one if it is not told
* `PADDLE_PORT`, `TRAINER_PORTS_NUM`: a block of ports reserved on each node
* `DISTRIBUTED_TRAINER_ENDPOINTS`: every endpoint, node by node
-/

import TrainingLauncher.Collective
import TrainingLauncher.Environment

namespace TrainingLauncher.Scheduler

open Text

/-- The start port of a job that a scheduler places. -/
def defaultStart : Port := 6170

/-- The scheduler identifies the node: its three variables for that are all set. -/
def isPresent (environment : Environment) : Bool :=
  ["PADDLE_TRAINERS", "POD_IP", "PADDLE_TRAINER_ID"].all fun name => environment[name]?.isSome

/-- The number that a variable spells, blanks around it aside, if it spells one at most `limit`. -/
def numberOf? (limit : Nat) (environment : Environment) (name : String) : Option Nat :=
  environment[name]?.bind fun text => (Decimal.read limit (trim text)).toOption

/-- How many trainers the scheduler announces. -/
def trainerCount (environment : Environment) : Nat :=
  (numberOf? Decimal.limit64 environment "PADDLE_TRAINERS_NUM").getD 1

/-- The placement of a collective job. -/
structure Placement where
  nodes : List String
  localNode : String
  /-- The first port of the reserved block. -/
  firstPort : Option Port
  /-- The size of the reserved block. -/
  portCount : Option Nat
  /-- The list of every endpoint, as it is written. -/
  endpointList : Option String
  deriving DecidableEq, Repr

namespace Placement

/-- Reads the placement from the environment; the nodes and this node's address must be there. -/
def ofEnvironment (environment : Environment) : Except LaunchError Placement := do
  let nodes := splitAddresses (environment["PADDLE_TRAINERS"]?.getD "")
  if nodes.isEmpty then throw (.config (.variableNotSet "PADDLE_TRAINERS"))
  let localNode := trim (environment["POD_IP"]?.getD "")
  if localNode.isEmpty then throw (.config (.variableNotSet "POD_IP"))
  return {
    nodes := nodes
    localNode := localNode
    firstPort := (numberOf? Decimal.limit16 environment "PADDLE_PORT").map UInt16.ofNat
    portCount := numberOf? Decimal.limit64 environment "TRAINER_PORTS_NUM"
    endpointList :=
      environment["DISTRIBUTED_TRAINER_ENDPOINTS"]?.filter fun list => !(trim list).isEmpty }

/-- Cuts a list into `count` runs of `size`. -/
def cut (size : Nat) : Nat → List Endpoint → List (List Endpoint)
  | 0, _ => []
  | count + 1, endpoints => endpoints.take size :: cut size count (endpoints.drop size)

/-- The endpoints of every node, from the list of all of them. -/
def listedEndpoints (placement : Placement) (deviceCount : Nat) (list : String) :
    Except LaunchError (List (List Endpoint)) := do
  let endpoints ← Endpoint.parseList list
  let perNode := placement.portCount.getD deviceCount
  let refused : LaunchError :=
    .config (.schedulerEndpoints endpoints.length placement.nodes.length perNode)
  if perNode = 0 then throw refused
  let expected ← counted (perNode * placement.nodes.length)
  if endpoints.length ≠ expected then throw refused
  return cut perNode placement.nodes.length endpoints

/-- The block that the scheduler reserved, when it holds a port per device, several nodes need it
and it starts elsewhere than the job would by itself. -/
def reservedStart? (placement : Placement) (deviceCount : Nat) (start : Port) : Option Port :=
  if placement.nodes.length > 1 then
    match placement.firstPort, placement.portCount with
    | some port, some size => if size ≥ deviceCount ∧ port ≠ start then some port else none
    | _, _ => none
  else none

/-- The endpoints of every node for `deviceCount` devices on each. -/
def endpoints (placement : Placement) (deviceCount : Nat) (start : Port) :
    Noted (List (List Endpoint)) :=
  match placement.endpointList with
  | some list => placement.listedEndpoints deviceCount list
  | none => do
    let reserved := placement.reservedStart? deviceCount start
    if reserved.isSome then Noted.note .warn "using the scheduler-assigned port block"
    let ports ← PortBlock.ports (reserved.getD start) 0 deviceCount
    return placement.nodes.map fun address =>
      ports.map fun port => (⟨address, port⟩ : Endpoint)

/-- The operator names other nodes than the scheduler. -/
def contradicts (placement : Placement) (given : List String) : Bool :=
  !given.isEmpty && given != ["127.0.0.1"] && given != placement.nodes

/-- The cluster of the placed job and the position of the local node's pod. The nodes that the
operator gives are only compared with the scheduler's, which count. -/
def build (placement : Placement) (given : List String) (devices : List DeviceId)
    (startPort : Option Port) : Noted (Cluster × Nat) := do
  if placement.contradicts given then
    Noted.note .warn
      "node ips are taken from the scheduler environment and differ from --ips"
  let lists ← placement.endpoints devices.length (startPort.getD defaultStart)
  Collective.assemble placement.nodes placement.localNode lists devices

end Placement

end TrainingLauncher.Scheduler
