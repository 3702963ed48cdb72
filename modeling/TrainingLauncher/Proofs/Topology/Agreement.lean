/-
What the launchers of one job have in common. Every node runs a launcher of its own, with its own
address and its own knowledge of itself, and they do not talk to each other. As long as nobody asks
its machine for free ports they agree on the cluster, and together they start every process of it
once.

* `LaunchConfig.Peers`: what may differ between two launchers of one job.
* `LaunchConfig.Derives.transfer`: a cluster that one launcher derives is derived by every other
  one, under that one's own address.
* `LaunchConfig.launchers_agree`: the clusters are the same, and the local pods of the launchers are
  all the pods, each of them once.
-/

import Mathlib.Data.Set.Operations
import TrainingLauncher.Proofs.Topology.Derivation

namespace TrainingLauncher

open Text

namespace Cluster

/-- **A rank is held in one pod only.** -/
theorem Numbered.place_unique {cluster : Cluster} (numbered : cluster.Numbered) {role : Role}
    {place other : Nat} {pod rival : Pod} {one another : RoleProcess}
    (here : cluster.pods[place]? = some pod) (mine : one ∈ pod.processes role)
    (there : cluster.pods[other]? = some rival) (theirs : another ∈ rival.processes role)
    (same : one.rank = another.rank) : place = other := by
  have ranks : ((cluster.processes role).map (·.rank)).Nodup := by
    rw [numbered.processRanks role]
    exact List.nodup_range
  rw [processes, List.map_flatMap, List.nodup_flatMap] at ranks
  obtain ⟨bound, rfl⟩ := List.getElem?_eq_some_iff.mp here
  obtain ⟨limit, rfl⟩ := List.getElem?_eq_some_iff.mp there
  have apart {first second : Nat} (inside : first < cluster.pods.length)
      (within : second < cluster.pods.length) (less : first < second) :=
    List.pairwise_iff_getElem.mp ranks.2 first second inside within less
  rcases Nat.lt_trichotomy place other with less | equal | less
  · exact (apart bound limit less (List.mem_map_of_mem mine)
      (same ▸ List.mem_map_of_mem theirs)).elim
  · exact equal
  · exact (apart limit bound less (List.mem_map_of_mem theirs)
      (same ▸ List.mem_map_of_mem mine)).elim

/-- Every rank of a role class is held in some pod. -/
theorem Numbered.exists_place {cluster : Cluster} (numbered : cluster.Numbered) {role : Role}
    {rank : Nat} (bound : rank < (cluster.processes role).length) :
    ∃ (place : Nat) (pod : Pod), cluster.pods[place]? = some pod ∧ ∃ process ∈ pod.processes role,
      process.rank = rank := by
  have ranked : rank ∈ (cluster.processes role).map (·.rank) := by
    rw [numbered.processRanks role]
    exact List.mem_range.mpr bound
  obtain ⟨process, member, same⟩ := List.mem_map.mp ranked
  obtain ⟨pod, placed, member⟩ := List.mem_flatMap.mp member
  obtain ⟨place, here⟩ := List.mem_iff_getElem?.mp placed
  exact ⟨place, pod, here, process, member, same⟩

/-- Without repeats, the addresses correspond to the positions of the pods. -/
theorem bijOn_idxOf_addresses {cluster : Cluster} (distinct : cluster.addresses.Nodup) :
    Set.BijOn cluster.addresses.idxOf {address | address ∈ cluster.addresses}
      {place | place < cluster.pods.length} := by
  have length : cluster.addresses.length = cluster.pods.length := List.length_map _
  refine ⟨fun address listed => ?_, fun one listed other _ same => ?_, fun place inside => ?_⟩
  · exact length ▸ List.idxOf_lt_length_of_mem listed
  · exact (List.idxOf_inj listed).mp same
  · have bound : place < cluster.addresses.length := length ▸ inside
    exact ⟨cluster.addresses[place], List.getElem_mem bound, distinct.idxOf_getElem place bound⟩

end Cluster

namespace Scheduler.Placement

variable {environment : Environment} {placement : Placement}

/-- The nodes that the scheduler names. -/
def nodesOf (environment : Environment) : List String :=
  splitAddresses (environment["PADDLE_TRAINERS"]?.getD "")

/-- What the scheduler calls the node. -/
def localNodeOf (environment : Environment) : String := trim (environment["POD_IP"]?.getD "")

/-- **A placement can be read off an environment** that names some nodes and the local one. -/
theorem ofEnvironment_eq_ok_iff : ofEnvironment environment = .ok placement ↔
    (nodesOf environment).isEmpty = false ∧ (localNodeOf environment).isEmpty = false ∧
      placement = {
        nodes := nodesOf environment
        localNode := localNodeOf environment
        firstPort := (numberOf? Decimal.limit16 environment "PADDLE_PORT").map UInt16.ofNat
        portCount := numberOf? Decimal.limit64 environment "TRAINER_PORTS_NUM"
        endpointList := environment["DISTRIBUTED_TRAINER_ENDPOINTS"]?.filter
          fun list => !(trim list).isEmpty } := by
  show (if (nodesOf environment).isEmpty then _ else if (localNodeOf environment).isEmpty then _
    else _) = _ ↔ _
  cases (nodesOf environment).isEmpty with
  | true =>
    constructor
    · intro same
      cases same
    · rintro ⟨named, -⟩
      cases named
  | false =>
    cases (localNodeOf environment).isEmpty with
    | true =>
      constructor
      · intro same
        cases same
      · rintro ⟨-, told, -⟩
        cases told
    | false => exact ⟨fun same => ⟨rfl, rfl, (Except.ok.inj same).symm⟩, fun same => same.2.2 ▸ rfl⟩

end Scheduler.Placement

namespace LaunchConfig

/-- The variables in which a scheduler tells the nodes of a job apart. -/
def nodeVariables : List String := ["POD_IP", "PADDLE_TRAINER_ID"]

/-- Two launchers of one job, on nodes with the same device files. They may be given different
addresses, and a scheduler may identify their nodes differently in the variables that it has for
that; what their machines know of themselves may be anything. -/
structure Peers (config other : LaunchConfig) (node elsewhere : Node) : Prop where
  description : ∃ nodeIp, other = { config with nodeIp := nodeIp }
  deviceFiles : elsewhere.deviceFiles = node.deviceFiles
  settings : ∀ name ∉ nodeVariables, elsewhere.environment[name]? = node.environment[name]?
  identified : ∀ name ∈ nodeVariables,
    elsewhere.environment[name]?.isSome = node.environment[name]?.isSome

/-- No launcher of the job asks its machine for free ports. -/
def AsksForNoPort (config : LaunchConfig) (node : Node) : Prop :=
  config.kind = .parameterServer ∨ 1 < config.nodes.length ∨ config.startPort.isSome ∨
    Scheduler.isPresent node.environment

/-- The launcher is told its address: by the scheduler if that has placed the job, and otherwise by
the operator. -/
def IsTold (config : LaunchConfig) (node : Node) (address : String) : Prop :=
  if config.kind = .collective ∧ isScheduled node then
    node.environment["POD_IP"]? = some address
  else config.nodeIp = some address

variable {config other : LaunchConfig} {node elsewhere : Node} {cluster : Cluster}
  {address : String}

section Peers

namespace Peers

theorem isPresent (peers : Peers config other node elsewhere) :
    Scheduler.isPresent elsewhere.environment = Scheduler.isPresent node.environment := by
  have nodes := peers.settings "PADDLE_TRAINERS" (by decide)
  have localNode := peers.identified "POD_IP" (by decide)
  have rank := peers.identified "PADDLE_TRAINER_ID" (by decide)
  simp only [Scheduler.isPresent, List.all_cons, List.all_nil, nodes, localNode, rank]

theorem kind (peers : Peers config other node elsewhere) : other.kind = config.kind := by
  obtain ⟨nodeIp, rfl⟩ := peers.description
  rfl

theorem nodes (peers : Peers config other node elsewhere) : other.nodes = config.nodes := by
  obtain ⟨nodeIp, rfl⟩ := peers.description
  rfl

theorem endpoints (peers : Peers config other node elsewhere) :
    other.serverDescription.endpoints = config.serverDescription.endpoints := by
  obtain ⟨nodeIp, rfl⟩ := peers.description
  rfl

theorem numberOf? (peers : Peers config other node elsewhere) (limit : Nat) {name : String}
    (common : name ∉ nodeVariables) :
    Scheduler.numberOf? limit elsewhere.environment name =
      Scheduler.numberOf? limit node.environment name := by
  rw [Scheduler.numberOf?, peers.settings name common, Scheduler.numberOf?]

theorem isScheduled (peers : Peers config other node elsewhere) :
    isScheduled elsewhere = isScheduled node := by
  have count := peers.numberOf? Decimal.limit64
    (show "PADDLE_TRAINERS_NUM" ∉ nodeVariables by decide)
  simp only [LaunchConfig.isScheduled, Scheduler.trainerCount, peers.isPresent, count]

theorem devices (peers : Peers config other node elsewhere) :
    other.devices elsewhere = config.devices node := by
  obtain ⟨nodeIp, rfl⟩ := peers.description
  have mask := peers.settings DeviceKind.gpu.maskVariable (by decide)
  simp only [LaunchConfig.devices, Devices.detect, mask, peers.deviceFiles]

/-- Peers that can both read the placement off their environments read the same, but for the
node's own address. -/
theorem placement (peers : Peers config other node elsewhere) {placement : Scheduler.Placement}
    (placed : Scheduler.Placement.ofEnvironment node.environment = .ok placement)
    (told : (Scheduler.Placement.localNodeOf elsewhere.environment).isEmpty = false) :
    Scheduler.Placement.ofEnvironment elsewhere.environment =
      .ok { placement with
        localNode := Scheduler.Placement.localNodeOf elsewhere.environment } := by
  obtain ⟨named, -, rfl⟩ := Scheduler.Placement.ofEnvironment_eq_ok_iff.mp placed
  have nodes : Scheduler.Placement.nodesOf elsewhere.environment =
      Scheduler.Placement.nodesOf node.environment := by
    rw [Scheduler.Placement.nodesOf, peers.settings _ (by decide),
      Scheduler.Placement.nodesOf]
  refine Scheduler.Placement.ofEnvironment_eq_ok_iff.mpr ⟨nodes ▸ named, told, ?_⟩
  simp only [nodes, peers.settings "DISTRIBUTED_TRAINER_ENDPOINTS" (by decide),
    peers.numberOf? _ (show "PADDLE_PORT" ∉ nodeVariables by decide),
    peers.numberOf? _ (show "TRAINER_PORTS_NUM" ∉ nodeVariables by decide)]

/-- Launchers that do not ask for free ports use the same ports. -/
theorem ports (peers : Peers config other node elsewhere) (settled : config.AsksForNoPort node)
    (kind : config.kind = .collective) (devices : List DeviceId) :
    (other.collectiveDescription elsewhere devices).ports elsewhere.probes =
      (config.collectiveDescription node devices).ports node.probes := by
  obtain ⟨nodeIp, rfl⟩ := peers.description
  have unasked : (config.collectiveDescription node devices).probesPorts = false := by
    rw [Collective.Description.probesPorts, collectiveDescription]
    rcases settled with servers | several | start | present
    · rw [kind] at servers
      cases servers
    · simp [Nat.not_le.mpr several]
    · simp [Option.isNone_eq_false_iff.mpr start]
    · simp [present]
  have neither : (collectiveDescription { config with nodeIp := nodeIp } elsewhere
      devices).probesPorts = false := by
    rw [← unasked, Collective.Description.probesPorts, Collective.Description.probesPorts,
      collectiveDescription, collectiveDescription, peers.isPresent]
    rfl
  rw [Collective.Description.ports, Collective.Description.ports, neither, unasked]
  rfl

end Peers

end Peers

section Transfer

/-- What a launcher derives depends on the description and on the node only. -/
theorem Derives.cluster_unique {another : Cluster} {own : String}
    (one : config.Derives node cluster address) (two : config.Derives node another own) :
    cluster = another := by
  cases one with
  | servers kind resolved =>
    cases two with
    | servers _ likewise =>
      cases resolved.symm.trans likewise
      rfl
    | scheduled collective => cases kind.symm.trans collective
    | named collective => cases kind.symm.trans collective
  | scheduled kind present selected placed resolved =>
    cases two with
    | servers servers => cases kind.symm.trans servers
    | scheduled _ _ selected' placed' resolved' =>
      cases selected.symm.trans selected'
      cases placed.symm.trans placed'
      cases resolved.symm.trans resolved'
      rfl
    | named _ absent => cases present.symm.trans absent
  | named kind absent selected located resolved =>
    cases two with
    | servers servers => cases kind.symm.trans servers
    | scheduled _ present => cases present.symm.trans absent
    | named _ _ selected' _ resolved' =>
      cases selected.symm.trans selected'
      cases resolved.symm.trans resolved'
      rfl

/-- **A cluster that one launcher derives is derived by every other one** that finds its own
address. -/
theorem Derives.transfer (derived : config.Derives node cluster address)
    (peers : Peers config other node elsewhere) (settled : config.AsksForNoPort node) {own : String}
    (known : other.localAddress elsewhere = .ok own) : other.Derives elsewhere cluster own := by
  have scheduled := peers.isScheduled
  have sameKind := peers.kind
  have sameDevices := peers.devices
  have samePorts := peers.ports settled
  cases derived with
  | servers kind resolved =>
    have kind' := sameKind.trans kind
    obtain ⟨endpoints, rank, resolved', located⟩ := (localAddress_eq_ok_of_servers kind').mp known
    cases resolved.symm.trans (peers.endpoints.symm.trans resolved')
    exact .servers kind' resolved' located
  | scheduled kind present selected placed resolved fits =>
    have kind' := sameKind.trans kind
    have present' := scheduled.trans present
    obtain ⟨placement, placed', rfl⟩ := (localAddress_eq_ok_of_scheduled kind' present').mp known
    have told := (Scheduler.Placement.ofEnvironment_eq_ok_iff.mp placed').2.1
    cases placed'.symm.trans (peers.placement placed told)
    obtain ⟨nodeIp, rfl⟩ := peers.description
    exact .scheduled kind' present'
      (sameDevices.trans selected) placed' resolved fits
  | named kind absent selected located resolved fits =>
    have kind' := sameKind.trans kind
    have absent' := scheduled.trans absent
    obtain ⟨rank, located⟩ := (localAddress_eq_ok_of_named kind' absent').mp known
    obtain ⟨nodeIp, rfl⟩ := peers.description
    exact .named kind' absent'
      (sameDevices.trans selected) located (samePorts kind _ ▸ resolved) fits

/-- A launcher that is told an address of the cluster goes by it. -/
theorem Derives.localAddress_of_told (derived : config.Derives node cluster address)
    (peers : Peers config other node elsewhere) {own : String} (told : other.IsTold elsewhere own)
    (listed : own ∈ cluster.addresses) : other.localAddress elsewhere = .ok own := by
  have scheduled := peers.isScheduled
  have sameKind := peers.kind
  rw [IsTold] at told
  cases derived with
  | servers kind resolved =>
    have kind' := sameKind.trans kind
    rw [kind', if_neg (fun both => by cases both.1)] at told
    rw [ParameterServer.assemble_addresses] at listed
    have located : resolveNode _ (some own) elsewhere.resolver = _ :=
      resolveNode_explicit (idxOf?_of_mem listed)
    exact (localAddress_eq_ok_of_servers kind').mpr
      ⟨_, _, peers.endpoints.trans resolved, told ▸ located⟩
  | scheduled kind present selected placed resolved fits =>
    have kind' := sameKind.trans kind
    have present' := scheduled.trans present
    rw [if_pos ⟨kind', present'⟩] at told
    rw [Collective.laid_addresses fits] at listed
    cases (Scheduler.Placement.ofEnvironment_eq_ok_iff.mp placed).2.2
    obtain ⟨trimmed, filled⟩ := trim_of_mem_entries listed
    have named : Scheduler.Placement.localNodeOf elsewhere.environment = own := by
      rw [Scheduler.Placement.localNodeOf, told, Option.getD_some, trimmed]
    exact (localAddress_eq_ok_of_scheduled kind' present').mpr
      ⟨_, peers.placement placed (named ▸ filled), named⟩
  | named kind absent selected located resolved fits =>
    have kind' := sameKind.trans kind
    have absent' := scheduled.trans absent
    rw [absent', if_neg (fun both => by cases both.2)] at told
    rw [Collective.laid_addresses fits] at listed
    have located : resolveNode _ (some own) elsewhere.resolver = _ :=
      resolveNode_explicit (idxOf?_of_mem listed)
    rw [← peers.nodes] at located
    exact (localAddress_eq_ok_of_named kind' absent').mpr ⟨_, told ▸ located⟩

/-- A launcher that is told an address of the cluster finds the same cluster, with itself in the
position of that address. -/
theorem Derives.topology_of_told (derived : config.Derives node cluster address)
    (peers : Peers config other node elsewhere) (settled : config.AsksForNoPort node) {own : String}
    (told : other.IsTold elsewhere own) (listed : own ∈ cluster.addresses) :
    (other.topology elsewhere).result = .ok (cluster, cluster.addresses.idxOf own) := by
  have known := derived.localAddress_of_told peers told listed
  exact topology_eq_ok_iff.mpr ⟨own, derived.transfer peers settled known, idxOf?_of_mem listed⟩

end Transfer

/-- **The launchers of a job agree, and together they start each process once.** When none of them
asks its machine for free ports, those that find a topology find the same cluster. If no address
stands for two pods and one launcher is told each of the addresses, then all of them do, their
positions correspond to the pods, and each rank of each role class belongs to the local pod of one
of them only. -/
theorem launchers_agree {index : Nat} (settled : config.AsksForNoPort node)
    (built : (config.topology node).result = .ok (cluster, index)) :
    (∀ other elsewhere another position, Peers config other node elsewhere →
      (other.topology elsewhere).result = .ok (another, position) → another = cluster) ∧
    (cluster.addresses.Nodup → ∀ (configs : String → LaunchConfig) (nodes : String → Node),
      (∀ own ∈ cluster.addresses, Peers config (configs own) node (nodes own) ∧
        (configs own).IsTold (nodes own) own) →
      ∃ position : String → Nat,
        (∀ own ∈ cluster.addresses,
          ((configs own).topology (nodes own)).result = .ok (cluster, position own)) ∧
        Set.BijOn position {own | own ∈ cluster.addresses} {place | place < cluster.pods.length} ∧
        ∀ role, ∀ rank < (cluster.processes role).length,
          ∃! own, own ∈ cluster.addresses ∧
            ∃ process ∈ (Job.podAt cluster (position own)).processes role,
              process.rank = rank) := by
  obtain ⟨address, derived, -⟩ := topology_eq_ok_iff.mp built
  have numbered := derived.numbered
  refine ⟨fun other elsewhere another position peers likewise => ?_,
    fun distinct configs nodes family => ?_⟩
  · obtain ⟨own, rederived, -⟩ := topology_eq_ok_iff.mp likewise
    exact rederived.cluster_unique (derived.transfer peers settled rederived.localAddress_eq)
  · obtain ⟨within, apart, onto⟩ := Cluster.bijOn_idxOf_addresses distinct
    have found (own : String) (listed : own ∈ cluster.addresses) :
        cluster.pods[cluster.addresses.idxOf own]? =
          some (Job.podAt cluster (cluster.addresses.idxOf own)) := by
      rw [Job.podAt, List.getD_eq_getElem?_getD, List.getElem?_eq_getElem (within listed)]
      rfl
    refine ⟨cluster.addresses.idxOf, fun own listed => ?_, ⟨within, apart, onto⟩,
      fun role rank bound => ?_⟩
    · exact derived.topology_of_told (family own listed).1 settled (family own listed).2 listed
    · -- a rank is held in one pod, and that pod is local to the launcher with its address
      obtain ⟨place, pod, here, process, member, same⟩ := numbered.exists_place bound
      obtain ⟨inside, -⟩ := List.getElem?_eq_some_iff.mp here
      obtain ⟨own, listed, rfl⟩ := onto inside
      cases here.symm.trans (found own listed)
      refine ⟨own, ⟨listed, process, member, same⟩, ?_⟩
      rintro rival ⟨enlisted, another, theirs, equal⟩
      exact apart enlisted listed <|
        numbered.place_unique (found rival enlisted) theirs here member (equal.trans same.symm)

theorem launchers_agree_twoNodes :
    twoNodes.AsksForNoPort bareNode ∧
      (twoNodes.topology bareNode).result = .ok (twoNodesCluster, 1) ∧
      twoNodesCluster.addresses.Nodup ∧
      ∃ position : String → Nat,
        (∀ own ∈ twoNodesCluster.addresses,
          (LaunchConfig.topology { twoNodes with nodeIp := some own } bareNode).result =
            .ok (twoNodesCluster, position own)) ∧
        ∃! own, own ∈ twoNodesCluster.addresses ∧
          ∃ process ∈ (Job.podAt twoNodesCluster (position own)).processes .server,
            process.rank = 1 := by
  have servers : twoNodes.kind = .parameterServer := by decide
  have distinct : twoNodesCluster.addresses.Nodup := by decide
  have family (own : String) :
      Peers twoNodes { twoNodes with nodeIp := some own } bareNode bareNode ∧
        IsTold { twoNodes with nodeIp := some own } bareNode own := by
    refine ⟨⟨⟨_, rfl⟩, rfl, fun _ _ => rfl, fun _ _ => rfl⟩, ?_⟩
    rw [IsTold, if_neg (fun both => by cases both.1)]
  obtain ⟨position, found, -, once⟩ := (launchers_agree (.inl servers) topology_twoNodes).2 distinct
    (fun own => { twoNodes with nodeIp := some own }) (fun _ => bareNode) (fun own _ => family own)
  exact ⟨.inl servers, topology_twoNodes, distinct, position, found, once .server 1 (by decide)⟩

end LaunchConfig

end TrainingLauncher
