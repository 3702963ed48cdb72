/-
When no two processes of a cluster listen at one endpoint. What the launcher places by itself never
collides: the free ports and the blocks of ports are without repeats, and the blocks of the roles
follow each other. Whatever is named for it is taken as it is, so that a node or an endpoint that is
named twice is used twice, and so is a listed endpoint that lies in the block of another role.

* `Cluster.allEndpoints`: where the processes of all pods and role classes listen.
* `ParameterServer.assemble_distinct_iff`: only the listed roles matter.
* `Collective.sites_distinct_iff`: on common ports, only the nodes matter.
* `LaunchConfig.topology_distinct_iff`: endpoints are distinct exactly when names are.
-/

import Mathlib.Data.List.Pairwise
import Mathlib.Data.List.Perm.Basic
import TrainingLauncher.Proofs.Devices
import TrainingLauncher.Proofs.Topology.Derivation
import TrainingLauncher.Proofs.Topology.RoleSpec

namespace TrainingLauncher

/-- Where the processes of all pods listen, role class by role class. -/
def Cluster.allEndpoints (cluster : Cluster) : List Endpoint :=
  Role.all.flatMap fun role => (cluster.processes role).map (·.endpoint)

/-- Lists of all role classes have no repeats together when none of them has one and no two of them
meet. -/
theorem Role.nodup_flatMap {lists : Role → List α} : (Role.all.flatMap lists).Nodup ↔
    ∀ role, (lists role).Nodup ∧ ∀ other ≠ role, (lists role).Disjoint (lists other) := by
  have complete (role : Role) : role ∈ Role.all := by cases role <;> decide
  have distinct : Role.all.Nodup := by decide
  rw [List.nodup_flatMap]
  constructor
  · rintro ⟨single, pairs⟩ role
    refine ⟨single role (complete role), fun other differs => ?_⟩
    have : Std.Symm (Function.onFun List.Disjoint lists) := ⟨fun _ _ => List.disjoint_symm⟩
    exact pairs.forall (complete role) (complete other) differs.symm
  · intro apart
    exact ⟨fun role _ => (apart role).1, distinct.imp fun differs => (apart _).2 _ differs.symm⟩

namespace ParameterServer

section Hosts

variable {seen texts : List String} {text : String}

theorem mem_firstSeen : text ∈ RoleEndpoints.firstSeen seen texts ↔ text ∈ texts ∧ text ∉ seen := by
  induction texts generalizing seen with
  | nil => simp [RoleEndpoints.firstSeen]
  | cons first rest ih =>
    rw [RoleEndpoints.firstSeen, List.mem_cons]
    split
    · rename_i known
      rw [ih]
      constructor
      · exact fun ⟨member, fresh⟩ => ⟨.inr member, fresh⟩
      · rintro ⟨rfl | member, fresh⟩
        · exact (fresh (List.contains_iff_mem.mp known)).elim
        · exact ⟨member, fresh⟩
    · rename_i unknown
      rw [List.mem_cons, ih, List.mem_cons, not_or]
      constructor
      · rintro (rfl | ⟨member, -, fresh⟩)
        · exact ⟨.inl rfl, fun member => unknown (List.contains_iff_mem.mpr member)⟩
        · exact ⟨.inr member, fresh⟩
      · rintro ⟨same | member, fresh⟩
        · exact .inl same
        · by_cases same : text = first
          · exact .inl same
          · exact .inr ⟨member, same, fresh⟩

theorem firstSeen_nodup : (RoleEndpoints.firstSeen seen texts).Nodup := by
  induction texts generalizing seen with
  | nil => exact List.nodup_nil
  | cons first rest ih =>
    rw [RoleEndpoints.firstSeen]
    split
    · exact ih
    · exact List.nodup_cons.mpr
        ⟨fun member => (mem_firstSeen.mp member).2 List.mem_cons_self, ih⟩

/-- Every endpoint is that of a role. -/
theorem RoleEndpoints.mem_all {endpoints : RoleEndpoints} {endpoint : Endpoint} :
    endpoint ∈ endpoints.all ↔ ∃ role, endpoint ∈ endpoints.ofRole role := by
  rw [all, List.mem_append, List.mem_append]
  constructor
  · rintro ((member | member) | member)
    exacts [⟨.server, member⟩, ⟨.trainer, member⟩, ⟨.heterWorker, member⟩]
  · rintro ⟨role, member⟩
    cases role with
    | trainer => exact .inl (.inr member)
    | server => exact .inl (.inl member)
    | heterWorker => exact .inr member

/-- The nodes are the hosts of the endpoints. -/
theorem RoleEndpoints.mem_nodes {endpoints : RoleEndpoints} {host : String} :
    host ∈ endpoints.nodes ↔ ∃ endpoint ∈ endpoints.all, endpoint.host = host := by
  rw [nodes, mem_firstSeen, and_iff_left List.not_mem_nil, List.mem_map]

/-- Sorting endpoints by their hosts loses none and repeats none. -/
theorem flatMap_filter_host_perm {hosts : List String} {listed : List Endpoint}
    (distinct : hosts.Nodup) (covered : ∀ endpoint ∈ listed, endpoint.host ∈ hosts) :
    (hosts.flatMap fun host => listed.filter (·.host == host)).Perm listed := by
  induction hosts generalizing listed with
  | nil =>
    rw [List.eq_nil_iff_forall_not_mem.mpr fun endpoint member =>
      List.not_mem_nil (covered endpoint member)]
    exact .refl _
  | cons host hosts ih =>
    obtain ⟨fresh, distinct⟩ := List.nodup_cons.mp distinct
    -- the other hosts take theirs from what the first one leaves over
    have others : (hosts.flatMap fun other => listed.filter (·.host == other)) =
        hosts.flatMap fun other =>
          (listed.filter fun endpoint => !(endpoint.host == host)).filter (·.host == other) := by
      refine List.flatMap_congr fun other member => ?_
      rw [List.filter_filter]
      refine List.filter_congr fun endpoint _ => ?_
      by_cases there : endpoint.host = other
      · have elsewhere : endpoint.host ≠ host := fun here => fresh (here ▸ there ▸ member)
        simp [there, there ▸ elsewhere]
      · simp [there]
    rw [List.flatMap_cons, others]
    refine ((ih distinct fun endpoint member => ?_).append_left _).trans
      (List.filter_append_perm _ _)
    obtain ⟨member, elsewhere⟩ := List.mem_filter.mp member
    exact (List.mem_cons.mp (covered endpoint member)).resolve_left (by simpa using elsewhere)

/-- The processes of a role class listen at the endpoints of that role, in some order. -/
theorem assemble_endpoints_perm (endpoints : RoleEndpoints) (role : Role) :
    (((assemble endpoints.nodes endpoints).processes role).map (·.endpoint)).Perm
      (endpoints.ofRole role) := by
  rw [assemble_processes, ranked_endpoint]
  refine flatMap_filter_host_perm firstSeen_nodup fun endpoint member => ?_
  exact RoleEndpoints.mem_nodes.mpr ⟨endpoint, RoleEndpoints.mem_all.mpr ⟨role, member⟩, rfl⟩

end Hosts

section Blocks

/-- Endpoints without a repeat whose ports lie in a stretch of their number. -/
structure Spans (first : Nat) (placed : List Endpoint) : Prop where
  distinct : placed.Nodup
  bounds : ∀ endpoint ∈ placed,
    first ≤ endpoint.port.toNat ∧ endpoint.port.toNat < first + placed.length

theorem Spans.disjoint {first second : Nat} {placed others : List Endpoint}
    (one : Spans first placed) (other : Spans second others)
    (before : first + placed.length ≤ second) : placed.Disjoint others := by
  intro endpoint here there
  have last := (one.bounds endpoint here).2
  have start := (other.bounds endpoint there).1
  omega

/-- A count alone gives a stretch of ports after those of the roles before. -/
theorem RoleSpec.resolve_spans {spec : RoleSpec} {role : Role} {offset : Nat}
    {startPort : Option Port} {placed : List Endpoint} (unlisted : spec.effectiveList = none)
    (resolved : spec.resolve role offset startPort = .ok placed) :
    Spans ((startPort.getD PortBlock.defaultStart).toNat + offset) placed := by
  cases RoleSpec.resolve_eq_ok_iff.mp resolved with
  | listed lists => exact (RoleSpec.effectiveList_eq_none_iff.mp unlisted _ lists).elim
  | counted counts _ within =>
    rw [localBlock_eq_map_block]
    constructor
    · refine (PortBlock.block_nodup within).map fun one other same => ?_
      exact congrArg Endpoint.port same
    · intro endpoint member
      obtain ⟨port, placed, rfl⟩ := List.mem_map.mp member
      rw [List.length_map, PortBlock.length_block]
      exact (PortBlock.mem_block within).mp placed

end Blocks

section Roles

/-- What is said about a role. -/
def Description.spec? (job : Description) : Role → Option RoleSpec
  | .trainer => some job.workers
  | .server => some job.servers
  | .heterWorker => job.heterWorkers

/-- The endpoints of the role are listed. -/
def Description.IsListed (job : Description) (role : Role) : Prop :=
  ∃ spec, job.spec? role = some spec ∧ spec.effectiveList.isSome

/-- How many endpoints the roles before a role have. -/
def RoleEndpoints.offset (endpoints : RoleEndpoints) : Role → Nat
  | .trainer => endpoints.servers.length
  | .server => 0
  | .heterWorker => endpoints.servers.length + endpoints.workers.length

variable {job : Description} {endpoints : RoleEndpoints}

/-- Each role is resolved after those before it, and one that the job does not have is empty. -/
theorem Description.endpoints_ofRole (resolved : job.endpoints = .ok endpoints) (role : Role) :
    match job.spec? role with
    | some spec =>
      spec.resolve role (endpoints.offset role) job.startPort = .ok (endpoints.ofRole role)
    | none => endpoints.ofRole role = [] := by
  obtain ⟨servers, first, resolved⟩ := bind_eq_ok_iff.mp resolved
  obtain ⟨workers, second, resolved⟩ := bind_eq_ok_iff.mp resolved
  cases given : job.heterWorkers with
  | none =>
    rw [given] at resolved
    cases resolved
    cases role with
    | trainer => exact second
    | server => exact first
    | heterWorker => rw [Description.spec?, given]; rfl
  | some spec =>
    rw [given] at resolved
    obtain ⟨heterWorkers, third, resolved⟩ := bind_eq_ok_iff.mp resolved
    cases resolved
    cases role with
    | trainer => exact second
    | server => exact first
    | heterWorker => rw [Description.spec?, given]; exact third

/-- The endpoints of a role that is not listed take their own stretch of ports. -/
theorem Description.endpoints_spans (resolved : job.endpoints = .ok endpoints) {role : Role}
    (unlisted : ¬job.IsListed role) :
    Spans ((job.startPort.getD PortBlock.defaultStart).toNat + endpoints.offset role)
      (endpoints.ofRole role) := by
  have found := Description.endpoints_ofRole resolved role
  cases described : job.spec? role with
  | none =>
    rw [described] at found
    rw [found]
    exact ⟨List.nodup_nil, fun _ member => by cases member⟩
  | some spec =>
    rw [described] at found
    refine RoleSpec.resolve_spans (Option.not_isSome_iff_eq_none.mp fun listed => ?_) found
    exact unlisted ⟨spec, described, listed⟩

/-- The stretches of two roles follow each other. -/
theorem RoleEndpoints.offset_apart (endpoints : RoleEndpoints) {role other : Role}
    (differ : role ≠ other) :
    endpoints.offset role + (endpoints.ofRole role).length ≤ endpoints.offset other ∨
      endpoints.offset other + (endpoints.ofRole other).length ≤ endpoints.offset role := by
  cases role <;> cases other <;>
    first
    | exact (differ rfl).elim
    | simp only [RoleEndpoints.offset, RoleEndpoints.ofRole]; omega

/-- No listed endpoint is repeated in its own role or found in another one. -/
def Description.ListsApart (job : Description) (endpoints : RoleEndpoints) : Prop :=
  ∀ role, job.IsListed role → (endpoints.ofRole role).Nodup ∧
    ∀ other ≠ role, (endpoints.ofRole role).Disjoint (endpoints.ofRole other)

/-- **Only the lists can make the processes of a parameter-server job collide.** -/
theorem assemble_distinct_iff (resolved : job.endpoints = .ok endpoints) :
    (assemble endpoints.nodes endpoints).allEndpoints.Nodup ↔ job.ListsApart endpoints := by
  have rearranged : (assemble endpoints.nodes endpoints).allEndpoints.Perm
      (Role.all.flatMap endpoints.ofRole) :=
    List.Perm.flatMap_left _ fun role _ => assemble_endpoints_perm endpoints role
  rw [rearranged.nodup_iff, Role.nodup_flatMap]
  constructor
  · exact fun apart role _ => apart role
  · intro apart role
    by_cases listed : job.IsListed role
    · exact apart role listed
    · have own := Description.endpoints_spans resolved listed
      refine ⟨own.distinct, fun other differs => ?_⟩
      by_cases listed' : job.IsListed other
      · exact List.disjoint_symm ((apart other listed').2 role differs.symm)
      · -- neither is listed, so that each of them has a stretch of ports to itself
        have others := Description.endpoints_spans resolved listed'
        rcases endpoints.offset_apart differs.symm with before | after
        · exact own.disjoint others (by omega)
        · exact List.disjoint_symm (others.disjoint own (by omega))

end Roles

end ParameterServer

namespace Collective

variable {devices : List DeviceId} {nodes : List String} {lists : List (List Endpoint)}

/-- The trainers use the first endpoints of every list, one for each device. -/
theorem laid_allEndpoints (fits : Fits devices nodes lists) :
    (laid devices nodes lists).allEndpoints = lists.flatMap (·.take devices.length) := by
  have trainers : ((laid devices nodes lists).processes .trainer).map (·.endpoint) =
      lists.flatMap (·.take devices.length) := podsOf_trainer_endpoint 0 fits
  have servers : (laid devices nodes lists).processes .server = [] :=
    laid_processes_of_ne (by decide)
  have heterWorkers : (laid devices nodes lists).processes .heterWorker = [] :=
    laid_processes_of_ne (by decide)
  simp only [Cluster.allEndpoints, Role.all, List.flatMap_cons, List.flatMap_nil, trainers, servers,
    heterWorkers, List.map_nil, List.append_nil]

/-- **On common ports, only the nodes can make the trainers collide.** -/
theorem sites_distinct_iff {ports : List Port} (fits : Fits devices nodes (sites nodes ports))
    (equipped : devices ≠ []) (distinct : ports.Nodup) :
    (laid devices nodes (sites nodes ports)).allEndpoints.Nodup ↔ nodes.Nodup := by
  have used : (sites nodes ports).flatMap (·.take devices.length) =
      nodes.flatMap fun address =>
        (ports.take devices.length).map fun port => (⟨address, port⟩ : Endpoint) := by
    rw [sites, List.flatMap_map]
    exact List.flatMap_congr fun address _ => (List.map_take ..).symm
  rw [laid_allEndpoints fits, used, List.nodup_flatMap]
  constructor
  · rintro ⟨-, apart⟩
    refine apart.imp_of_mem fun {one other} member _ apart same => ?_
    subst same
    -- a node that is named twice meets itself at the first port, and there is one
    have enough := fits.enough _ (List.mem_map_of_mem member)
    rw [List.length_map] at enough
    have first : 0 < (ports.take devices.length).length := by
      rw [List.length_take, Nat.min_eq_left enough]
      exact List.length_pos_iff.mpr equipped
    have shared := List.mem_map_of_mem (f := fun port => (⟨one, port⟩ : Endpoint))
      (List.getElem_mem first)
    exact apart shared shared
  · intro named
    refine ⟨fun address _ => ?_, named.imp fun differ => ?_⟩
    · refine (distinct.sublist (List.take_sublist _ _)).map fun one other same => ?_
      exact congrArg Endpoint.port same
    · intro endpoint here there
      obtain ⟨_, -, rfl⟩ := List.mem_map.mp here
      obtain ⟨_, -, same⟩ := List.mem_map.mp there
      exact differ (congrArg Endpoint.host same).symm

end Collective

/-- A selection has a device. -/
theorem Devices.select_ne_nil {requested visible : Option String} {detected : Nat}
    {devices : List DeviceId}
    (selected : (select requested visible detected).result = .ok devices) : devices ≠ [] := by
  rw [select_result] at selected
  obtain ⟨_, -, kept⟩ := bind_eq_ok_iff.mp selected
  obtain ⟨filled, rfl⟩ := inhabited_eq_ok_iff.mp kept
  exact filled

namespace Scheduler.Placement

variable {placement : Placement} {devices : List DeviceId} {start : Port}
  {lists : List (List Endpoint)}

/-- The scheduler names no node twice, or, when it lists endpoints, gives no endpoint to two
trainers. -/
def NamesApart (placement : Placement) (deviceCount : Nat) : Prop :=
  match placement.endpointList with
  | none => placement.nodes.Nodup
  | some list => ∃ lists, placement.listedEndpoints deviceCount list = .ok lists ∧
      (lists.flatMap (·.take deviceCount)).Nodup

/-- Without a list of endpoints all nodes use the same block of ports. -/
theorem sites_of_unlisted {deviceCount : Nat} (unlisted : placement.endpointList = none)
    (resolved : (placement.endpoints deviceCount start).result = .ok lists) :
    ∃ first ports, PortBlock.ports first 0 deviceCount = .ok ports ∧
      lists = Collective.sites placement.nodes ports := by
  rw [endpoints, unlisted] at resolved
  dsimp only at resolved
  split at resolved <;> simp only [Noted.result_bind] at resolved
  · obtain ⟨_, -, resolved⟩ := bind_eq_ok_iff.mp resolved
    obtain ⟨ports, built, same⟩ := bind_eq_ok_iff.mp resolved
    exact ⟨_, ports, built, (Except.ok.inj same).symm⟩
  · obtain ⟨ports, built, same⟩ := bind_eq_ok_iff.mp resolved
    exact ⟨_, ports, built, (Except.ok.inj same).symm⟩

/-- **Only the scheduler's names can make the trainers collide.** -/
theorem laid_distinct_iff (equipped : devices ≠ [])
    (resolved : (placement.endpoints devices.length start).result = .ok lists)
    (fits : Collective.Fits devices placement.nodes lists) :
    (Collective.laid devices placement.nodes lists).allEndpoints.Nodup ↔
      placement.NamesApart devices.length := by
  rw [NamesApart]
  cases given : placement.endpointList with
  | some list =>
    rw [endpoints, given] at resolved
    rw [Collective.laid_allEndpoints fits]
    constructor
    · exact fun distinct => ⟨lists, resolved, distinct⟩
    · rintro ⟨_, likewise, distinct⟩
      cases resolved.symm.trans likewise
      exact distinct
  | none =>
    obtain ⟨_, ports, built, rfl⟩ := sites_of_unlisted given resolved
    exact Collective.sites_distinct_iff fits equipped (PortBlock.ports_nodup built)

end Scheduler.Placement

namespace LaunchConfig

/-- Nothing that is named for the job is named twice: no endpoint of a listed role, no node of a
collective job, and nothing by the scheduler that places one. -/
def NamesApart (config : LaunchConfig) (node : Node) : Prop :=
  match config.kind with
  | .parameterServer => ∃ endpoints, config.serverDescription.endpoints = .ok endpoints ∧
      config.serverDescription.ListsApart endpoints
  | .collective =>
    if isScheduled node then ∃ devices placement, config.devices node = .ok devices ∧
      Scheduler.Placement.ofEnvironment node.environment = .ok placement ∧
        placement.NamesApart devices.length
    else config.nodes.Nodup

variable {config : LaunchConfig} {node : Node} {cluster : Cluster} {address : String} {index : Nat}

theorem Derives.distinct_iff (derived : config.Derives node cluster address) :
    cluster.allEndpoints.Nodup ↔ config.NamesApart node := by
  rw [NamesApart]
  cases derived with
  | servers kind resolved =>
    rw [kind, ParameterServer.assemble_distinct_iff resolved]
    constructor
    · exact fun apart => ⟨_, resolved, apart⟩
    · rintro ⟨_, likewise, apart⟩
      cases resolved.symm.trans likewise
      exact apart
  | scheduled kind present selected placed resolved fits =>
    rw [kind, Scheduler.Placement.laid_distinct_iff (Devices.select_ne_nil selected) resolved fits]
    dsimp only
    rw [if_pos present]
    constructor
    · exact fun apart => ⟨_, _, selected, placed, apart⟩
    · rintro ⟨_, _, selected', placed', apart⟩
      cases selected.symm.trans selected'
      cases placed.symm.trans placed'
      exact apart
  | @named devices ports _ _ kind absent selected located resolved fits =>
    have distinct : ports.Nodup := by
      rw [Collective.Description.ports] at resolved
      split at resolved
      · exact PortBlock.allocate_nodup resolved
      · exact PortBlock.ports_nodup resolved
    rw [kind, Collective.sites_distinct_iff fits (Devices.select_ne_nil selected) distinct]
    dsimp only
    rw [if_neg (Bool.eq_false_iff.mp absent)]

/-- **The processes of a cluster listen at distinct endpoints exactly when nothing that is named for
the job is named twice.** The ports that the launcher chooses never collide. -/
theorem topology_distinct_iff (built : (config.topology node).result = .ok (cluster, index)) :
    cluster.allEndpoints.Nodup ↔ config.NamesApart node := by
  obtain ⟨address, derived, -⟩ := topology_eq_ok_iff.mp built
  exact derived.distinct_iff

theorem topology_distinct_twoNodes :
    (twoNodes.topology bareNode).result = .ok (twoNodesCluster, 1) ∧
      twoNodesCluster.allEndpoints.Nodup ∧ twoNodes.NamesApart bareNode := by
  have distinct : twoNodesCluster.allEndpoints.Nodup := by decide
  exact ⟨topology_twoNodes, distinct, (topology_distinct_iff topology_twoNodes).mp distinct⟩

/-- A server is listed at the second port of the block that starts where blocks start by default,
and the only worker gets the port after as many as there are servers. -/
def sharedPort : LaunchConfig :=
  { LaunchConfig.ofScript "train.py" with
    servers := ⟨none, some "127.0.0.1:6071"⟩
    workers := ⟨some 1, none⟩ }

/-- The cluster of that job. -/
def sharedPortCluster : Cluster := .ofPods [
  { Pod.empty 0 "127.0.0.1" with
    trainers := [⟨[], ⟨"127.0.0.1", 6071⟩, 0⟩]
    servers := [⟨[], ⟨"127.0.0.1", 6071⟩, 0⟩] }]

theorem topology_collides : (sharedPort.topology bareNode).result = .ok (sharedPortCluster, 0) ∧
    ¬sharedPortCluster.allEndpoints.Nodup := by
  decide +kernel

end LaunchConfig

end TrainingLauncher
