/-
The trainers of a collective job. Every node has one for each device, at the endpoint that its list
has in the place of the device, and the ranks run node by node.

* `Cluster.Staffed`: a cluster of nodes with one trainer for each device.
* `Collective.laid_staffed`: the cluster of a collective job is one.
* `Collective.Refused`: why there is none.
* `Collective.assemble_staffs`: when there is a cluster, what it holds, and where the trainers
  listen when the machine is not asked for ports.
-/

import TrainingLauncher.Proofs.NodeIdentity
import TrainingLauncher.Proofs.Topology.Residence

namespace TrainingLauncher

/-- A cluster of nodes with one trainer for each device and no other process. The trainer for the
device in the place `slot` of the node in the place `place` has the rank that is counted node by
node and, on a node, device by device; `listens place slot` tells its endpoint. -/
structure Cluster.Staffed (cluster : Cluster) (nodes : List String) (devices : List DeviceId)
    (listens : Nat → Nat → Endpoint → Prop) : Prop where
  addresses : cluster.addresses = nodes
  visible : ∀ pod ∈ cluster.pods, pod.devices = devices
  count : ∀ pod ∈ cluster.pods, pod.trainers.length = devices.length
  trainers : ∀ place pod, cluster.pods[place]? = some pod →
    ∀ slot device, devices[slot]? = some device → ∃ endpoint, listens place slot endpoint ∧
      pod.trainers[slot]? = some ⟨[device], endpoint, place * devices.length + slot⟩
  others : ∀ role ≠ .trainer, ∀ pod ∈ cluster.pods, pod.processes role = []

/-- Where the trainers listen may be said in another way. -/
theorem Cluster.Staffed.imp {cluster : Cluster} {nodes : List String} {devices : List DeviceId}
    {listens hears : Nat → Nat → Endpoint → Prop}
    (staffed : cluster.Staffed nodes devices listens)
    (step : ∀ place < nodes.length, ∀ slot < devices.length, ∀ endpoint,
      listens place slot endpoint → hears place slot endpoint) :
    cluster.Staffed nodes devices hears := by
  refine { staffed with trainers := fun place pod here slot device chosen => ?_ }
  obtain ⟨endpoint, listening, trainer⟩ := staffed.trainers place pod here slot device chosen
  have placed : place < nodes.length := by
    rw [← staffed.addresses, Cluster.addresses, List.length_map]
    exact (List.getElem?_eq_some_iff.mp here).1
  have slotted := (List.getElem?_eq_some_iff.mp chosen).1
  exact ⟨endpoint, step place placed slot slotted endpoint listening, trainer⟩

namespace PortBlock

/-- The ports of a block follow each other. -/
theorem toNat_of_getElem?_block {start port : Port} {offset count slot : Nat}
    (within : start.toNat + offset + count ≤ portSpace)
    (here : (block start offset count)[slot]? = some port) :
    port.toNat = start.toNat + offset + slot := by
  rw [block, List.getElem?_map, Option.map_eq_some_iff] at here
  obtain ⟨number, here, rfl⟩ := here
  rw [toNat_ofNat_of_mem_range' within (List.mem_of_getElem? here)]
  obtain ⟨-, rfl⟩ := List.getElem?_eq_some_iff.mp here
  rw [List.getElem_range', Nat.one_mul]

end PortBlock

namespace Collective

variable {devices : List DeviceId} {nodes : List String} {lists : List (List Endpoint)}
  {ports : List Port} {place slot : Nat} {endpoint : Endpoint}

section Trainers

/-- The trainer in a place is that of the device there, at the endpoint there. -/
theorem getElem?_trainersFrom (first slot : Nat) (devices : List DeviceId)
    (endpoints : List Endpoint) :
    (trainersFrom first devices endpoints)[slot]? = devices[slot]?.bind fun device =>
      endpoints[slot]?.map fun endpoint => ⟨[device], endpoint, first + slot⟩ := by
  induction devices generalizing first slot endpoints with
  | nil => rfl
  | cons device devices ih =>
    cases endpoints with
    | nil => cases slot <;> simp [trainersFrom]
    | cons endpoint endpoints =>
      cases slot with
      | zero => rfl
      | succ slot =>
        rw [trainersFrom, List.getElem?_cons_succ, List.getElem?_cons_succ,
          List.getElem?_cons_succ, ih, Nat.add_right_comm, Nat.add_assoc]

/-- The endpoint in a place of the list of a node. -/
def Listed (lists : List (List Endpoint)) (place slot : Nat) (endpoint : Endpoint) : Prop :=
  ∃ run, lists[place]? = some run ∧ run[slot]? = some endpoint

/-- **The cluster of a collective job has one trainer for each device of every node.** -/
theorem laid_staffed (fits : Fits devices nodes lists) :
    (laid devices nodes lists).Staffed nodes devices (Listed lists) := by
  have made {pod : Pod} (member : pod ∈ (laid devices nodes lists).pods) :
      ∃ first rank address run, devices.length ≤ run.length ∧
        pod = podFrom first rank address devices run := by
    obtain ⟨place, here⟩ := List.mem_iff_getElem?.mp member
    obtain ⟨address, run, -, listed, rfl⟩ := laid_pod here
    exact ⟨_, _, _, _, fits.enough run (List.mem_of_getElem? listed), rfl⟩
  constructor
  · exact laid_addresses fits
  · intro pod member
    obtain ⟨_, _, _, _, -, rfl⟩ := made member
    rfl
  · intro pod member
    obtain ⟨first, _, _, _, enough, rfl⟩ := made member
    exact length_trainersFrom first enough
  · intro place pod here slot device chosen
    obtain ⟨address, run, -, listed, rfl⟩ := laid_pod here
    have inside : slot < run.length :=
      Nat.lt_of_lt_of_le (List.getElem?_eq_some_iff.mp chosen).1
        (fits.enough run (List.mem_of_getElem? listed))
    refine ⟨run[slot], ⟨run, listed, List.getElem?_eq_getElem inside⟩, ?_⟩
    show (trainersFrom _ devices run)[slot]? = _
    rw [getElem?_trainersFrom, chosen, List.getElem?_eq_getElem inside]
    rfl
  · intro role other pod member
    obtain ⟨_, _, _, _, -, rfl⟩ := made member
    cases role with
    | trainer => exact (other rfl).elim
    | server => rfl
    | heterWorker => rfl

/-- On common ports, the trainers in one place use the same port on all nodes. -/
theorem listed_sites_iff : Listed (sites nodes ports) place slot endpoint ↔
    nodes[place]? = some endpoint.host ∧ ports[slot]? = some endpoint.port := by
  rw [Listed, sites, List.getElem?_map]
  constructor
  · rintro ⟨run, used, here⟩
    obtain ⟨address, named, rfl⟩ := Option.map_eq_some_iff.mp used
    rw [List.getElem?_map] at here
    obtain ⟨port, bound, rfl⟩ := Option.map_eq_some_iff.mp here
    exact ⟨named, bound⟩
  · rintro ⟨named, here⟩
    rw [named]
    refine ⟨_, rfl, ?_⟩
    rw [List.getElem?_map, here]
    rfl

/-- Ports for all devices are enough for every node. -/
theorem fits_sites (count : ports.length = devices.length) :
    Fits devices nodes (sites nodes ports) := by
  constructor
  · exact List.length_map _
  · intro list member
    obtain ⟨address, -, rfl⟩ := List.mem_map.mp member
    rw [List.length_map]
    exact Nat.le_of_eq count.symm

/-- The endpoint of the trainer in a place of a node, on ports that follow each other. -/
def Consecutive (nodes : List String) (start : Port) (place slot : Nat) (endpoint : Endpoint) :
    Prop :=
  nodes[place]? = some endpoint.host ∧ endpoint.port.toNat = start.toNat + slot

/-- On a block of ports, the trainers of a node listen at consecutive ports. -/
theorem laid_block_staffed {start : Port}
    (within : start.toNat + 0 + devices.length ≤ PortBlock.portSpace) :
    (laid devices nodes (sites nodes (PortBlock.block start 0 devices.length))).Staffed nodes
      devices (Consecutive nodes start) := by
  have fits : Fits devices nodes (sites nodes (PortBlock.block start 0 devices.length)) :=
    fits_sites PortBlock.length_block
  refine (laid_staffed fits).imp fun place _ slot _ endpoint listed => ?_
  obtain ⟨named, here⟩ := listed_sites_iff.mp listed
  exact ⟨named, PortBlock.toNat_of_getElem?_block within here⟩

end Trainers

section Errors

variable {first rank : Nat} {localNode : String} {fault : ConfigFault} {error : LaunchError}

/-- A node has fewer endpoints than there are devices, and it is the first one that has. -/
def FirstShort (devices : List DeviceId) (nodes : List String) (lists : List (List Endpoint))
    (address : String) (run : List Endpoint) : Prop :=
  ∃ place : Nat, nodes[place]? = some address ∧ lists[place]? = some run ∧
    run.length < devices.length ∧
      ∀ earlier < place, ∀ other, lists[earlier]? = some other → devices.length ≤ other.length

/-- Why there is no cluster of the nodes. -/
inductive Refused (devices : List DeviceId) (nodes : List String) (localNode : String)
    (lists : List (List Endpoint)) : ConfigFault → Prop
  /-- There is not one list of endpoints for each node. -/
  | lists (differ : lists.length ≠ nodes.length) :
      Refused devices nodes localNode lists (.endpointLists lists.length nodes.length)
  /-- A node has too few endpoints. -/
  | few {address : String} {run : List Endpoint} (lengths : lists.length = nodes.length)
      (short : FirstShort devices nodes lists address run) :
      Refused devices nodes localNode lists
        (.fewEndpoints address run.length devices.length)
  /-- The local node is none of them. -/
  | unlisted (fits : Fits devices nodes lists) (unlisted : localNode ∉ nodes) :
      Refused devices nodes localNode lists (.nodeNotListed (some localNode) nodes)

/-- The pods cannot be made when a node has fewer endpoints than devices. -/
theorem podsFrom_error (lengths : lists.length = nodes.length)
    (failed : podsFrom devices first rank nodes lists = .error error) :
    ∃ address run, FirstShort devices nodes lists address run ∧
      error = .config (.fewEndpoints address run.length devices.length) := by
  induction nodes generalizing first rank lists with
  | nil => cases failed
  | cons address nodes ih =>
    cases lists with
    | nil => cases lengths
    | cons endpoints lists =>
      rw [podsFrom] at failed
      split at failed
      · rename_i few
        cases failed
        exact ⟨address, endpoints, ⟨0, rfl, rfl, few, fun _ before => by cases before⟩, rfl⟩
      · rename_i enough
        obtain failed | ⟨_, -, absurd⟩ := bind_eq_error_iff.mp failed
        · obtain ⟨node, run, ⟨place, named, listed, few, least⟩, rfl⟩ :=
            ih (Nat.succ.inj lengths) failed
          refine ⟨node, run, ⟨place + 1, named, listed, few, ?_⟩, rfl⟩
          intro earlier before other there
          cases earlier with
          | zero =>
            cases there
            exact Nat.not_lt.mp enough
          | succ earlier => exact least earlier (Nat.lt_of_succ_lt_succ before) other there
        · cases absurd

/-- **Without a cluster there is a reason**, and it is the fault that is told. -/
theorem refused_of_assemble (failed : assemble nodes localNode lists devices = .error error) :
    ∃ fault, Refused devices nodes localNode lists fault ∧ error = .config fault := by
  by_cases lengths : lists.length = nodes.length
  · rw [assemble, if_neg (not_not_intro lengths)] at failed
    obtain few | ⟨pods, built, failed⟩ := bind_eq_error_iff.mp failed
    · obtain ⟨address, run, short, rfl⟩ := podsFrom_error lengths few
      exact ⟨_, .few lengths short, rfl⟩
    · have fits : Fits devices nodes lists := ⟨lengths, enough_of_podsFrom lengths built⟩
      cases found : nodes.idxOf? localNode with
      | some place =>
        rw [found] at failed
        cases failed
      | none =>
        rw [found] at failed
        cases failed
        exact ⟨_, .unlisted fits (List.idxOf?_eq_none_iff.mp found), rfl⟩
  · rw [assemble, if_pos lengths] at failed
    cases failed
    exact ⟨_, .lists lengths, rfl⟩

end Errors

section Descriptions

variable {job : Description} {probes : List (Option Port)}

/-- The job does not ask the machine for a port: its ports are settled, or it needs none. -/
def Description.AsksForNoPort (job : Description) : Prop :=
  job.probesPorts = false ∨ job.devices = []

/-- The cluster of a job that asks for no port is on a block of ports. -/
theorem Description.build_staffed {resolver : Resolver} {cluster : Cluster} {index : Nat}
    (settled : job.AsksForNoPort)
    (built : (job.build resolver probes).result = .ok (cluster, index)) :
    cluster.Staffed job.nodes job.devices
        (Consecutive job.nodes (job.startPort.getD PortBlock.defaultStart)) ∧
      ∃ address, resolveNode job.nodes job.explicit resolver = .ok (address, index) := by
  rw [LaunchConfig.description_result] at built
  obtain ⟨⟨address, rank⟩, located, built⟩ := bind_eq_ok_iff.mp built
  obtain ⟨ports, resolved, built⟩ := bind_eq_ok_iff.mp built
  obtain ⟨fits, rfl, found⟩ := assemble_eq_ok_iff.mp built
  have same := (idxOf?_of_resolveNode located).symm.trans found
  cases same
  refine ⟨?_, address, located⟩
  rcases settled with unasked | none
  · rw [Description.ports, unasked] at resolved
    obtain ⟨within, rfl⟩ := PortBlock.ports_eq_ok_iff.mp resolved
    exact laid_block_staffed within
  · refine (laid_staffed fits).imp fun place _ slot bound => ?_
    rw [none] at bound
    cases bound

end Descriptions

/-- **The cluster of a collective job.** There is one exactly when every node has a list with an
endpoint for each device and the local node is one of the nodes; otherwise the description is to
blame, and the error tells why. Each node has one trainer for each device, which listens at the
endpoint in the place of the device, and nothing else; the position is the first one of the local
node. A job that asks for no port uses consecutive ports, and the position is the one that the
machine finds for itself among the nodes. -/
theorem assemble_staffs :
    (∀ nodes localNode lists devices,
      ((∃ cluster index, assemble nodes localNode lists devices = .ok (cluster, index)) ↔
        Fits devices nodes lists ∧ localNode ∈ nodes) ∧
      (∀ error, assemble nodes localNode lists devices = .error error →
        ∃ fault, Refused devices nodes localNode lists fault ∧ error = .config fault) ∧
      ∀ cluster index, assemble nodes localNode lists devices = .ok (cluster, index) →
        cluster.Staffed nodes devices (Listed lists) ∧ nodes[index]? = some localNode ∧
          ∀ earlier < index, nodes[earlier]? ≠ some localNode) ∧
    ∀ (job : Description) (resolver : Resolver) (probes : List (Option Port)) cluster index,
      job.AsksForNoPort → (job.build resolver probes).result = .ok (cluster, index) →
        cluster.Staffed job.nodes job.devices
            (Consecutive job.nodes (job.startPort.getD PortBlock.defaultStart)) ∧
          ∃ address, resolveNode job.nodes job.explicit resolver = .ok (address, index) := by
  refine ⟨fun nodes localNode lists devices => ⟨?_, fun error => refused_of_assemble, ?_⟩,
    fun job resolver probes cluster index => Description.build_staffed⟩
  · constructor
    · rintro ⟨cluster, index, built⟩
      obtain ⟨fits, -, found⟩ := assemble_eq_ok_iff.mp built
      exact ⟨fits, mem_of_idxOf? found⟩
    · rintro ⟨fits, listed⟩
      exact ⟨_, _, assemble_eq_ok_iff.mpr ⟨fits, rfl, idxOf?_of_mem listed⟩⟩
  · intro cluster index built
    obtain ⟨fits, rfl, found⟩ := assemble_eq_ok_iff.mp built
    exact ⟨laid_staffed fits, idxOf?_eq_some_iff_getElem?.mp found⟩

/-- A job on two nodes, one of them named twice. -/
def repeatedNode : Description where
  nodes := ["10.0.0.1", "10.0.0.2", "10.0.0.2"]
  explicit := some "10.0.0.2"
  devices := [0, 3]
  startPort := some 65534
  underScheduler := false

/-- The cluster of that job. -/
def repeatedNodeCluster : Cluster := .ofPods [
  { Pod.empty 0 "10.0.0.1" with
    trainers := [⟨[0], ⟨"10.0.0.1", 65534⟩, 0⟩, ⟨[3], ⟨"10.0.0.1", 65535⟩, 1⟩]
    devices := [0, 3] },
  { Pod.empty 1 "10.0.0.2" with
    trainers := [⟨[0], ⟨"10.0.0.2", 65534⟩, 2⟩, ⟨[3], ⟨"10.0.0.2", 65535⟩, 3⟩]
    devices := [0, 3] },
  { Pod.empty 2 "10.0.0.2" with
    trainers := [⟨[0], ⟨"10.0.0.2", 65534⟩, 4⟩, ⟨[3], ⟨"10.0.0.2", 65535⟩, 5⟩]
    devices := [0, 3] }]

theorem assemble_staffs_repeatedNode :
    repeatedNode.AsksForNoPort ∧
      (repeatedNode.build ⟨none, none⟩ []).result = .ok (repeatedNodeCluster, 1) ∧
      repeatedNodeCluster.Staffed repeatedNode.nodes [0, 3]
        (Consecutive repeatedNode.nodes 65534) ∧
      ∃ address, resolveNode repeatedNode.nodes (some "10.0.0.2") ⟨none, none⟩ =
        .ok (address, 1) := by
  have settled : repeatedNode.AsksForNoPort := .inl rfl
  have built : (repeatedNode.build ⟨none, none⟩ []).result = .ok (repeatedNodeCluster, 1) := by
    decide +kernel
  exact ⟨settled, built, assemble_staffs.2 _ _ _ _ _ settled built⟩

end Collective

end TrainingLauncher
