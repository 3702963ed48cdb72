/-
Parameter-server jobs: servers, workers and heterogeneous workers. Each role is described by a
count, by a list of endpoints or by both; a role with a count alone gets a block of local ports
after those of the roles before it. A pod holds every endpoint of its host.
-/

import TrainingLauncher.Cluster
import TrainingLauncher.Node
import TrainingLauncher.PortBlock

namespace TrainingLauncher.ParameterServer

open Text

/-- The host of the endpoints that are not listed. -/
def localHost : String := "127.0.0.1"

/-- How many processes a role has and where they listen. -/
structure RoleSpec where
  count : Option Nat
  /-- A list of endpoints, written with commas. -/
  endpoints : Option String
  deriving DecidableEq, Repr

namespace RoleSpec

/-- A role that nothing is said about. -/
def unset : RoleSpec := ⟨none, none⟩

/-- Something is said about the role. -/
def isGiven (spec : RoleSpec) : Bool := spec.count.isSome || spec.endpoints.isSome

/-- The count that takes effect; zero counts as none. -/
def effectiveCount (spec : RoleSpec) : Option Nat := spec.count.filter (· > 0)

/-- The list that takes effect; a blank list counts as none. -/
def effectiveList (spec : RoleSpec) : Option String :=
  (spec.endpoints.map trim).filter (!·.isEmpty)

/-- The endpoints of the role; `offset` is the number of endpoints of the roles before it. -/
def resolve (spec : RoleSpec) (role : Role) (offset : Nat) (startPort : Option Port) :
    Except LaunchError (List Endpoint) :=
  match spec.effectiveCount, spec.effectiveList with
  | some count, some list => do
    let endpoints ← Endpoint.parseList list
    if endpoints.length ≠ count then
      throw (.config (.roleCount role count endpoints.length))
    return endpoints
  | some count, none => do
    let ports ← PortBlock.ports (startPort.getD PortBlock.defaultStart) offset count
    return ports.map fun port => ⟨localHost, port⟩
  | none, some list => Endpoint.parseList list
  | none, none => .error (.config (.roleMissing role))

end RoleSpec

/-- The endpoints of every role, in listed order. -/
structure RoleEndpoints where
  servers : List Endpoint
  workers : List Endpoint
  heterWorkers : List Endpoint
  deriving DecidableEq, Repr

namespace RoleEndpoints

/-- The endpoints of a role. -/
def ofRole (endpoints : RoleEndpoints) : Role → List Endpoint
  | .trainer => endpoints.workers
  | .server => endpoints.servers
  | .heterWorker => endpoints.heterWorkers

/-- Every endpoint: servers, workers, heter workers. -/
def all (endpoints : RoleEndpoints) : List Endpoint :=
  endpoints.servers ++ endpoints.workers ++ endpoints.heterWorkers

/-- The texts of a list without repeats, each where it first appears; those in `seen` are left
out. -/
def firstSeen (seen : List String) : List String → List String
  | [] => []
  | text :: rest =>
    if seen.contains text then firstSeen seen rest else text :: firstSeen (text :: seen) rest

/-- The hosts in order of first appearance. -/
def nodes (endpoints : RoleEndpoints) : List String :=
  firstSeen [] (endpoints.all.map (·.host))

/-- The endpoints of a role that live on a host. -/
def onHost (endpoints : RoleEndpoints) (role : Role) (host : String) : List Endpoint :=
  (endpoints.ofRole role).filter (·.host == host)

end RoleEndpoints

/-- Processes at the given endpoints, ranked from `first`. -/
def ranked (first : Nat) : List Endpoint → List RoleProcess
  | [] => []
  | endpoint :: rest => ⟨[], endpoint, first⟩ :: ranked (first + 1) rest

/-- The pods of the nodes from `rank` on; `placed` tells how many processes of each role the pods
before them hold. -/
def podsFrom (endpoints : RoleEndpoints) (rank : Nat) (placed : Role → Nat) :
    List String → List Pod
  | [] => []
  | host :: hosts =>
    let pod : Pod := { Pod.empty rank host with
      trainers := ranked (placed .trainer) (endpoints.onHost .trainer host)
      servers := ranked (placed .server) (endpoints.onHost .server host)
      heterWorkers := ranked (placed .heterWorker) (endpoints.onHost .heterWorker host) }
    pod :: podsFrom endpoints (rank + 1)
      (fun role => placed role + (endpoints.onHost role host).length) hosts

/-- The cluster with one pod per node. -/
def assemble (nodes : List String) (endpoints : RoleEndpoints) : Cluster :=
  .ofPods (podsFrom endpoints 0 (fun _ => 0) nodes)

/-- A parameter-server job as the operator describes it. -/
structure Description where
  servers : RoleSpec
  workers : RoleSpec
  /-- Only a heterogeneous job has them. -/
  heterWorkers : Option RoleSpec
  /-- This node's address, when it is given. -/
  explicit : Option String
  startPort : Option Port
  deriving DecidableEq, Repr

namespace Description

/-- The endpoints of every role. -/
def endpoints (job : Description) : Except LaunchError RoleEndpoints := do
  let servers ← job.servers.resolve .server 0 job.startPort
  let workers ← job.workers.resolve .trainer servers.length job.startPort
  let heterWorkers ←
    match job.heterWorkers with
    | some spec => spec.resolve .heterWorker (servers.length + workers.length) job.startPort
    | none => pure []
  return ⟨servers, workers, heterWorkers⟩

/-- The cluster of the job and the position of the local node's pod. -/
def build (job : Description) (resolver : Resolver) : Except LaunchError (Cluster × Nat) := do
  let endpoints ← job.endpoints
  let (_, rank) ← resolveNode endpoints.nodes job.explicit resolver
  return (assemble endpoints.nodes endpoints, rank)

end Description

end TrainingLauncher.ParameterServer
