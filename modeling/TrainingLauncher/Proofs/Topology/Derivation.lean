/-
Where a topology comes from. A launcher derives the cluster of its job in one of three ways: from
the endpoints of the roles, from the placement of a scheduler, or from the nodes that the operator
names. In each of them it also finds out under which address the cluster knows its own node, and
that address decides nothing but the position of the local pod.

* `LaunchConfig.Derives`: the three ways, with everything that they rely on.
* `LaunchConfig.topology_eq_ok_iff`: a topology is a cluster that is derived and the position of the
  first pod with the node's address.
* `LaunchConfig.topology_wellFormed`: what the drivers of a job and the queries of a cluster rely
  on.
-/

import Mathlib.Data.List.Nodup
import TrainingLauncher.Job
import TrainingLauncher.Proofs.Topology.Numbering

namespace TrainingLauncher

section Nodes

variable {nodes : List String} {explicit : Option String} {resolver : Resolver} {address : String}
  {rank : Nat}

theorem idxOf?_of_mem (listed : address ∈ nodes) :
    nodes.idxOf? address = some (nodes.idxOf address) := by
  obtain ⟨place, found⟩ := Option.isSome_iff_exists.mp (List.isSome_idxOf?.mpr listed)
  rw [List.idxOf_eq_getD_idxOf?, found, Option.getD_some]

/-- The node that a machine takes itself for is where its address first stands. -/
theorem idxOf?_of_resolveNode
    (located : resolveNode nodes explicit resolver = .ok (address, rank)) :
    nodes.idxOf? address = some rank := by
  unfold resolveNode at located
  dsimp only at located
  split at located
  · cases located
  · cases located
    rw [List.idxOf?_cons, beq_self_eq_true]
    rfl
  · split at located
    · rename_i found
      cases located
      exact found
    · cases located
  · split at located
    · rename_i found
      cases located
      have listed := List.find?_some found
      exact idxOf?_of_mem (List.contains_iff_mem.mp listed)
    · cases located

/-- An address that is given and listed decides, whatever the machine knows of itself. -/
theorem resolveNode_explicit (listed : nodes.idxOf? address = some rank) :
    resolveNode nodes (some address) resolver = .ok (address, rank) := by
  cases nodes with
  | nil => cases listed
  | cons node others =>
    unfold resolveNode
    simp only [listed]

end Nodes

/-- The endpoints of every node when all nodes use the same ports. -/
def Collective.sites (nodes : List String) (ports : List Port) : List (List Endpoint) :=
  nodes.map fun address => ports.map fun port => ⟨address, port⟩

namespace LaunchConfig

/-- The devices that a collective job uses on a node. -/
def devices (config : LaunchConfig) (node : Node) : Except LaunchError (List DeviceId) :=
  (Devices.select config.gpus node.environment[DeviceKind.gpu.maskVariable]?
    (Devices.detect .gpu node.environment node.deviceFiles)).result

/-- A scheduler that places collective jobs has started the launcher. -/
def isScheduled (node : Node) : Bool :=
  Scheduler.isPresent node.environment && Scheduler.trainerCount node.environment != 1

/-- The collective job of the description, for the devices of a node. -/
def collectiveDescription (config : LaunchConfig) (node : Node) (devices : List DeviceId) :
    Collective.Description where
  nodes := config.nodes
  explicit := config.nodeIp
  devices := devices
  startPort := config.startPort
  underScheduler := Scheduler.isPresent node.environment

/-- A description stands for a cluster, in which the node goes by an address. -/
inductive Derives (config : LaunchConfig) (node : Node) : Cluster → String → Prop
  /-- The roles of a parameter-server job are described. -/
  | servers {endpoints : ParameterServer.RoleEndpoints} {address : String} {rank : Nat}
      (kind : config.kind = .parameterServer)
      (resolved : config.serverDescription.endpoints = .ok endpoints)
      (located : resolveNode endpoints.nodes config.nodeIp node.resolver = .ok (address, rank)) :
      Derives config node (ParameterServer.assemble endpoints.nodes endpoints) address
  /-- A scheduler has placed a collective job. -/
  | scheduled {devices : List DeviceId} {placement : Scheduler.Placement}
      {lists : List (List Endpoint)} (kind : config.kind = .collective)
      (present : isScheduled node = true) (selected : config.devices node = .ok devices)
      (placed : Scheduler.Placement.ofEnvironment node.environment = .ok placement)
      (resolved : (placement.endpoints devices.length
        (config.startPort.getD Scheduler.defaultStart)).result = .ok lists)
      (fits : Collective.Fits devices placement.nodes lists) :
      Derives config node (Collective.laid devices placement.nodes lists) placement.localNode
  /-- The nodes of a collective job are named. -/
  | named {devices : List DeviceId} {ports : List Port} {address : String} {rank : Nat}
      (kind : config.kind = .collective) (absent : isScheduled node = false)
      (selected : config.devices node = .ok devices)
      (located : resolveNode config.nodes config.nodeIp node.resolver = .ok (address, rank))
      (resolved : ((config.collectiveDescription node devices).ports node.probes).result =
        .ok ports)
      (fits : Collective.Fits devices config.nodes (Collective.sites config.nodes ports)) :
      Derives config node
        (Collective.laid devices config.nodes (Collective.sites config.nodes ports)) address

/-- The address under which a node takes part in the job: what the scheduler calls it, or else the
listed address that it is told or finds to be its own. -/
def localAddress (config : LaunchConfig) (node : Node) : Except LaunchError String :=
  match config.kind with
  | .parameterServer => do
    let endpoints ← config.serverDescription.endpoints
    return (← resolveNode endpoints.nodes config.nodeIp node.resolver).1
  | .collective =>
    if isScheduled node then do
      return (← Scheduler.Placement.ofEnvironment node.environment).localNode
    else do
      return (← resolveNode config.nodes config.nodeIp node.resolver).1

variable {config : LaunchConfig} {node : Node} {cluster : Cluster} {address : String} {index : Nat}

section LocalAddress

theorem localAddress_eq_ok_of_servers (kind : config.kind = .parameterServer) :
    config.localAddress node = .ok address ↔
      ∃ endpoints rank, config.serverDescription.endpoints = .ok endpoints ∧
        resolveNode endpoints.nodes config.nodeIp node.resolver = .ok (address, rank) := by
  rw [localAddress, kind]
  constructor
  · intro known
    obtain ⟨endpoints, resolved, known⟩ := bind_eq_ok_iff.mp known
    obtain ⟨⟨own, rank⟩, located, known⟩ := bind_eq_ok_iff.mp known
    cases known
    exact ⟨endpoints, rank, resolved, located⟩
  · rintro ⟨endpoints, rank, resolved, located⟩
    exact bind_eq_ok_iff.mpr ⟨_, resolved, bind_eq_ok_iff.mpr ⟨_, located, rfl⟩⟩

theorem localAddress_eq_ok_of_scheduled (kind : config.kind = .collective)
    (present : isScheduled node = true) :
    config.localAddress node = .ok address ↔
      ∃ placement, Scheduler.Placement.ofEnvironment node.environment = .ok placement ∧
        placement.localNode = address := by
  rw [localAddress, kind]
  dsimp only
  rw [if_pos present]
  constructor
  · intro known
    obtain ⟨placement, placed, known⟩ := bind_eq_ok_iff.mp known
    exact ⟨placement, placed, Except.ok.inj known⟩
  · rintro ⟨placement, placed, rfl⟩
    exact bind_eq_ok_iff.mpr ⟨_, placed, rfl⟩

theorem localAddress_eq_ok_of_named (kind : config.kind = .collective)
    (absent : isScheduled node = false) :
    config.localAddress node = .ok address ↔
      ∃ rank, resolveNode config.nodes config.nodeIp node.resolver = .ok (address, rank) := by
  rw [localAddress, kind]
  dsimp only
  rw [if_neg (Bool.eq_false_iff.mp absent)]
  constructor
  · intro known
    obtain ⟨⟨own, rank⟩, located, known⟩ := bind_eq_ok_iff.mp known
    cases known
    exact ⟨rank, located⟩
  · rintro ⟨rank, located⟩
    exact bind_eq_ok_iff.mpr ⟨_, located, rfl⟩

/-- The address of a derivation is the one under which the node takes part. -/
theorem Derives.localAddress_eq (derived : config.Derives node cluster address) :
    config.localAddress node = .ok address := by
  cases derived with
  | servers kind resolved located =>
    exact (localAddress_eq_ok_of_servers kind).mpr ⟨_, _, resolved, located⟩
  | scheduled kind present selected placed resolved fits =>
    exact (localAddress_eq_ok_of_scheduled kind present).mpr ⟨_, placed, rfl⟩
  | named kind absent selected located resolved fits =>
    exact (localAddress_eq_ok_of_named kind absent).mpr ⟨_, located⟩

end LocalAddress

section Results

theorem topology_result : (config.topology node).result =
    match config.kind with
    | .collective => (config.collectiveTopology node).result
    | .parameterServer => config.serverDescription.build node.resolver := by
  rw [topology, Noted.result_bind, Noted.result_note]
  cases config.kind <;> rfl

theorem placement_result {placement : Scheduler.Placement} {given : List String}
    {devices : List DeviceId} {startPort : Option Port} :
    (placement.build given devices startPort).result =
      (placement.endpoints devices.length (startPort.getD Scheduler.defaultStart)).result >>=
        fun lists => Collective.assemble placement.nodes placement.localNode lists devices := by
  rw [Scheduler.Placement.build]
  split
  · rw [Noted.result_bind, Noted.result_note]
    exact Noted.result_bind _ _
  · exact Noted.result_bind _ _

theorem description_result {job : Collective.Description} {resolver : Resolver}
    {probes : List (Option Port)} :
    (job.build resolver probes).result =
      resolveNode job.nodes job.explicit resolver >>= fun located =>
        (job.ports probes).result >>= fun ports =>
          Collective.assemble job.nodes located.1 (Collective.sites job.nodes ports)
            job.devices := by
  rw [Collective.Description.build, Noted.result_bind, Noted.result_lift]
  refine congrArg _ (funext fun located => ?_)
  exact Noted.result_bind _ _

theorem collectiveTopology_result : (config.collectiveTopology node).result =
    config.devices node >>= fun devices =>
      if isScheduled node then
        Scheduler.Placement.ofEnvironment node.environment >>= fun placement =>
          (placement.build config.nodes devices config.startPort).result
      else
        ((config.collectiveDescription node devices).build node.resolver node.probes).result := by
  rw [collectiveTopology, Noted.result_bind]
  refine congrArg _ (funext fun devices => ?_)
  rw [isScheduled]
  split
  · exact Noted.result_bind _ _
  · rfl

end Results

/-- **A topology is a cluster that is derived, and the position of the first pod with the node's
address.** -/
theorem topology_eq_ok_iff : (config.topology node).result = .ok (cluster, index) ↔
    ∃ address, config.Derives node cluster address ∧
      cluster.addresses.idxOf? address = some index := by
  rw [topology_result]
  constructor
  · intro built
    cases kind : config.kind with
    | parameterServer =>
      rw [kind] at built
      obtain ⟨endpoints, resolved, built⟩ := bind_eq_ok_iff.mp built
      obtain ⟨⟨address, rank⟩, located, built⟩ := bind_eq_ok_iff.mp built
      cases built
      refine ⟨address, .servers kind resolved located, ?_⟩
      rw [ParameterServer.assemble_addresses]
      exact idxOf?_of_resolveNode located
    | collective =>
      rw [kind] at built
      dsimp only at built
      rw [collectiveTopology_result] at built
      obtain ⟨devices, selected, built⟩ := bind_eq_ok_iff.mp built
      split at built
      · rename_i present
        obtain ⟨placement, placed, built⟩ := bind_eq_ok_iff.mp built
        rw [placement_result] at built
        obtain ⟨lists, resolved, built⟩ := bind_eq_ok_iff.mp built
        obtain ⟨fits, rfl, found⟩ := Collective.assemble_eq_ok_iff.mp built
        refine ⟨_, .scheduled kind present selected placed resolved fits, ?_⟩
        rwa [Collective.laid_addresses fits]
      · rename_i absent
        rw [description_result] at built
        obtain ⟨⟨address, rank⟩, located, built⟩ := bind_eq_ok_iff.mp built
        obtain ⟨ports, resolved, built⟩ := bind_eq_ok_iff.mp built
        obtain ⟨fits, rfl, found⟩ := Collective.assemble_eq_ok_iff.mp built
        refine ⟨_, .named kind (Bool.eq_false_iff.mpr absent) selected located resolved fits, ?_⟩
        rwa [Collective.laid_addresses fits]
  · rintro ⟨address, derived, found⟩
    cases derived with
    | servers kind resolved located =>
      rw [ParameterServer.assemble_addresses, idxOf?_of_resolveNode located] at found
      cases found
      rw [kind]
      exact bind_eq_ok_iff.mpr ⟨_, resolved, bind_eq_ok_iff.mpr ⟨_, located, rfl⟩⟩
    | scheduled kind present selected placed resolved fits =>
      rw [Collective.laid_addresses fits] at found
      rw [kind]
      dsimp only
      rw [collectiveTopology_result, selected]
      refine bind_eq_ok_iff.mpr ⟨_, rfl, ?_⟩
      rw [if_pos present, placed]
      refine bind_eq_ok_iff.mpr ⟨_, rfl, ?_⟩
      rw [placement_result, resolved]
      exact Collective.assemble_eq_ok_iff.mpr ⟨fits, rfl, found⟩
    | named kind absent selected located resolved fits =>
      rw [Collective.laid_addresses fits] at found
      rw [kind]
      dsimp only
      rw [collectiveTopology_result, selected]
      refine bind_eq_ok_iff.mpr ⟨_, rfl, ?_⟩
      rw [if_neg (Bool.eq_false_iff.mp absent), description_result]
      refine bind_eq_ok_iff.mpr ⟨_, located, bind_eq_ok_iff.mpr ⟨_, resolved, ?_⟩⟩
      exact Collective.assemble_eq_ok_iff.mpr ⟨fits, rfl, found⟩

/-- A cluster that is derived is numbered. -/
theorem Derives.numbered (derived : config.Derives node cluster address) : cluster.Numbered := by
  cases derived with
  | servers => exact ParameterServer.assemble_numbered _
  | scheduled kind present selected placed resolved fits => exact Collective.laid_numbered fits
  | named kind absent selected located resolved fits => exact Collective.laid_numbered fits

/-- A node without an environment that knows nothing of its addresses. -/
def bareNode : Node := ⟨∅, none, ⟨none, none⟩, [], []⟩

/-- A parameter-server job on two nodes, of which the second is ours. -/
def twoNodes : LaunchConfig :=
  { LaunchConfig.ofScript "train.py" with
    mode := .psHeter
    nodeIp := some "10.0.0.2"
    servers := ⟨none, some "10.0.0.1:6000,10.0.0.2:6000"⟩
    workers := ⟨some 2, some "10.0.0.2:6001,10.0.0.1:6001"⟩
    heterWorkers := ⟨none, some "10.0.0.2:6002"⟩ }

/-- The cluster of that job. -/
def twoNodesCluster : Cluster := .ofPods [
  { Pod.empty 0 "10.0.0.1" with
    trainers := [⟨[], ⟨"10.0.0.1", 6001⟩, 0⟩]
    servers := [⟨[], ⟨"10.0.0.1", 6000⟩, 0⟩] },
  { Pod.empty 1 "10.0.0.2" with
    trainers := [⟨[], ⟨"10.0.0.2", 6001⟩, 1⟩]
    servers := [⟨[], ⟨"10.0.0.2", 6000⟩, 1⟩]
    heterWorkers := [⟨[], ⟨"10.0.0.2", 6002⟩, 0⟩] }]

theorem topology_twoNodes :
    (twoNodes.topology bareNode).result = .ok (twoNodesCluster, 1) := by
  decide +kernel

end LaunchConfig

end TrainingLauncher
