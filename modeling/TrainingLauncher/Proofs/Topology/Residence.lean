/-
Where the processes listen. A process listens at the address of its node, whether the operator or
the launcher has chosen the endpoint. Only a scheduler that lists endpoints decides by their places:
the list is cut into equal runs, one per node, and nothing is said about the hosts in it.

* `Cluster.Resident`: the processes listen where they run.
* `ParameterServer.assemble_resident`, `Collective.sites_resident`: clusters in which they do.
* `Scheduler.Placement.getElem?_cut`: the run of a node in a list of endpoints.
* `LaunchConfig.topology_resides`: when they do, and where they listen otherwise.
-/

import TrainingLauncher.Proofs.Topology.Agreement
import TrainingLauncher.Proofs.Topology.Distinctness

namespace TrainingLauncher

/-- Every process on the pod listens at the address of the pod. -/
def Pod.Resident (pod : Pod) : Prop :=
  ∀ role, ∀ process ∈ pod.processes role, process.endpoint.host = pod.address

/-- The processes listen on the nodes that they run on. -/
def Cluster.Resident (cluster : Cluster) : Prop := ∀ pod ∈ cluster.pods, pod.Resident

namespace ParameterServer

variable {endpoints : RoleEndpoints}

/-- **A pod of a parameter-server job holds the endpoints of its host.** -/
theorem assemble_resident (hosts : List String) : (assemble hosts endpoints).Resident := by
  intro pod member role process there
  have listed : process.endpoint ∈ endpoints.onHost role pod.address := by
    rw [← assemble_pod_endpoints member]
    exact List.mem_map_of_mem there
  exact beq_iff_eq.mp (List.mem_filter.mp listed).2

end ParameterServer

namespace Collective

variable {devices : List DeviceId} {nodes : List String} {lists : List (List Endpoint)}

/-- The pod in a place is that of the node there, with the list of endpoints there. -/
theorem getElem?_podsOf (rank place : Nat) :
    (podsOf devices rank nodes lists)[place]? = nodes[place]?.bind fun address =>
      lists[place]?.map fun endpoints =>
        podFrom ((rank + place) * devices.length) (rank + place) address devices endpoints := by
  induction nodes generalizing rank lists place with
  | nil => rfl
  | cons address nodes ih =>
    cases lists with
    | nil => cases place <;> simp [podsOf]
    | cons endpoints lists =>
      cases place with
      | zero => rfl
      | succ place =>
        rw [podsOf, List.getElem?_cons_succ, List.getElem?_cons_succ, List.getElem?_cons_succ, ih,
          Nat.add_right_comm, Nat.add_assoc]

theorem laid_pod {place : Nat} {pod : Pod}
    (here : (laid devices nodes lists).pods[place]? = some pod) :
    ∃ address endpoints, nodes[place]? = some address ∧ lists[place]? = some endpoints ∧
      pod = podFrom (place * devices.length) place address devices endpoints := by
  rw [laid, Cluster.ofPods, getElem?_podsOf] at here
  obtain ⟨address, named, here⟩ := Option.bind_eq_some_iff.mp here
  obtain ⟨endpoints, listed, same⟩ := Option.map_eq_some_iff.mp here
  rw [Nat.zero_add] at same
  exact ⟨address, endpoints, named, listed, same.symm⟩

/-- A trainer listens at the endpoint in the place of its device. -/
theorem trainersFrom_getElem? (first : Nat) {endpoints : List Endpoint} {slot : Nat}
    (bound : slot < devices.length) :
    (trainersFrom first devices endpoints)[slot]?.map (·.endpoint) = endpoints[slot]? := by
  rw [← List.getElem?_map, trainersFrom_endpoint, List.getElem?_take_of_lt bound]

/-- **On common ports the trainers listen on their nodes.** -/
theorem sites_resident (devices : List DeviceId) (nodes : List String) (ports : List Port) :
    (laid devices nodes (sites nodes ports)).Resident := by
  intro pod member role process placed
  obtain ⟨place, here⟩ := List.mem_iff_getElem?.mp member
  obtain ⟨address, endpoints, named, listed, rfl⟩ := laid_pod here
  rw [sites, List.getElem?_map, named] at listed
  cases listed
  cases role with
  | trainer =>
    have used := List.mem_map_of_mem (f := RoleProcess.endpoint) placed
    rw [show Pod.processes _ .trainer = trainersFrom _ devices _ from rfl,
      trainersFrom_endpoint] at used
    obtain ⟨port, -, same⟩ := List.mem_map.mp (List.mem_of_mem_take used)
    exact congrArg Endpoint.host same.symm
  | server => cases placed
  | heterWorker => cases placed

end Collective

namespace Scheduler.Placement

/-- **The runs of a list that is cut up follow each other.** -/
theorem getElem?_cut (size count place : Nat) (endpoints : List Endpoint) :
    (cut size count endpoints)[place]? =
      if place < count then some ((endpoints.drop (place * size)).take size) else none := by
  induction count generalizing place endpoints with
  | zero => rfl
  | succ count ih =>
    cases place with
    | zero => simp [cut]
    | succ place =>
      rw [cut, List.getElem?_cons_succ, ih, List.drop_drop, Nat.succ_mul, Nat.add_comm size]
      exact if_congr Nat.succ_lt_succ_iff.symm rfl rfl

variable {placement : Placement} {deviceCount : Nat} {list : String}
  {lists : List (List Endpoint)}

/-- A list of endpoints that is accepted has a run of them for every node. -/
theorem cut_of_listedEndpoints
    (resolved : placement.listedEndpoints deviceCount list = .ok lists) :
    ∃ endpoints, Endpoint.parseList list = .ok endpoints ∧
      endpoints.length = placement.portCount.getD deviceCount * placement.nodes.length ∧
      lists = cut (placement.portCount.getD deviceCount) placement.nodes.length endpoints := by
  obtain ⟨endpoints, read, resolved⟩ := bind_eq_ok_iff.mp resolved
  dsimp only at resolved
  split at resolved
  · cases resolved
  · obtain ⟨expected, count, resolved⟩ := bind_eq_ok_iff.mp resolved
    obtain ⟨-, rfl⟩ := counted_eq_ok_iff.mp count
    split at resolved
    · cases resolved
    · rename_i length
      exact ⟨endpoints, read, not_not.mp length, (Except.ok.inj resolved).symm⟩

end Scheduler.Placement

/-- The trainers of a cluster are at the endpoints of a list that holds `size` of them for every
node: on each node they take the first ones, one for each device. There are no other processes. -/
structure Cluster.FollowsList (cluster : Cluster) (deviceCount size : Nat)
    (endpoints : List Endpoint) : Prop where
  length : endpoints.length = size * cluster.pods.length
  count : ∀ pod ∈ cluster.pods, pod.trainers.length = deviceCount
  trainers : ∀ place pod, cluster.pods[place]? = some pod → ∀ slot < deviceCount,
    pod.trainers[slot]?.map (·.endpoint) = endpoints[place * size + slot]?
  others : ∀ role ≠ .trainer, ∀ pod ∈ cluster.pods, pod.processes role = []

/-- Such trainers listen on their nodes exactly when the list says so. -/
theorem Cluster.FollowsList.resident_iff {cluster : Cluster} {deviceCount size : Nat}
    {endpoints : List Endpoint} (follows : cluster.FollowsList deviceCount size endpoints) :
    cluster.Resident ↔ ∀ place pod, cluster.pods[place]? = some pod → ∀ slot < deviceCount,
      ∀ endpoint, endpoints[place * size + slot]? = some endpoint →
        endpoint.host = pod.address := by
  constructor
  · intro resident place pod here slot bound endpoint listed
    rw [← follows.trainers place pod here slot bound] at listed
    obtain ⟨process, there, rfl⟩ := Option.map_eq_some_iff.mp listed
    exact resident pod (List.mem_of_getElem? here) .trainer process (List.mem_of_getElem? there)
  · intro named pod member role process placed
    by_cases trains : role = .trainer
    · subst trains
      obtain ⟨place, here⟩ := List.mem_iff_getElem?.mp member
      obtain ⟨slot, there⟩ := List.mem_iff_getElem?.mp placed
      obtain ⟨within, -⟩ := List.getElem?_eq_some_iff.mp there
      have bound : slot < deviceCount := follows.count pod member ▸ within
      refine named place pod here slot bound process.endpoint ?_
      rw [← follows.trainers place pod here slot bound]
      exact congrArg (Option.map (·.endpoint)) there
    · rw [follows.others role trains pod member] at placed
      cases placed

namespace LaunchConfig

/-- The list of endpoints of the scheduler that places the job, if it does and has one. -/
def announcedList? (config : LaunchConfig) (node : Node) : Option String :=
  if config.kind = .collective ∧ isScheduled node then
    node.environment["DISTRIBUTED_TRAINER_ENDPOINTS"]?.filter fun list => !(Text.trim list).isEmpty
  else none

/-- How many endpoints of that list are meant for each node. -/
def announcedSize (node : Node) (deviceCount : Nat) : Nat :=
  (Scheduler.numberOf? Decimal.limit64 node.environment "TRAINER_PORTS_NUM").getD deviceCount

variable {config : LaunchConfig} {node : Node} {cluster : Cluster} {address : String} {index : Nat}

section Cut

variable {devices : List DeviceId} {nodes : List String} {size : Nat} {endpoints : List Endpoint}

/-- The cluster of nodes that take the runs of a list of endpoints. -/
abbrev laidByList (devices : List DeviceId) (nodes : List String) (size : Nat)
    (endpoints : List Endpoint) : Cluster :=
  Collective.laid devices nodes (Scheduler.Placement.cut size nodes.length endpoints)

/-- The pod in a place is made from the run of that place, which has an endpoint for each device. -/
theorem laidByList_pod
    (fits : Collective.Fits devices nodes (Scheduler.Placement.cut size nodes.length endpoints))
    {place : Nat} {pod : Pod}
    (here : (laidByList devices nodes size endpoints).pods[place]? = some pod) :
    ∃ first rank address, devices.length ≤ ((endpoints.drop (place * size)).take size).length ∧
      pod = Collective.podFrom first rank address devices
        ((endpoints.drop (place * size)).take size) := by
  obtain ⟨address, run, named, listed, rfl⟩ := Collective.laid_pod here
  have enough := fits.enough run (List.mem_of_getElem? listed)
  obtain ⟨within, -⟩ := List.getElem?_eq_some_iff.mp named
  rw [Scheduler.Placement.getElem?_cut, if_pos within] at listed
  cases listed
  exact ⟨_, _, _, enough, rfl⟩

/-- A cluster that is laid out along the runs of a list follows the list. -/
theorem laidByList_follows (length : endpoints.length = size * nodes.length)
    (fits : Collective.Fits devices nodes (Scheduler.Placement.cut size nodes.length endpoints)) :
    (laidByList devices nodes size endpoints).FollowsList devices.length size endpoints := by
  constructor
  · have pods := congrArg List.length (Collective.laid_addresses fits)
    rw [Cluster.addresses, List.length_map] at pods
    rw [length, pods]
  · intro pod member
    obtain ⟨place, here⟩ := List.mem_iff_getElem?.mp member
    obtain ⟨first, rank, address, enough, rfl⟩ := laidByList_pod fits here
    exact Collective.length_trainersFrom first enough
  · intro place pod here slot bound
    obtain ⟨first, rank, address, enough, rfl⟩ := laidByList_pod fits here
    have inside : slot < size :=
      Nat.lt_of_lt_of_le bound (Nat.le_trans enough (List.length_take_le _ _))
    show (Collective.trainersFrom first devices _)[slot]?.map _ = _
    rw [Collective.trainersFrom_getElem? first bound, List.getElem?_take_of_lt inside,
      List.getElem?_drop]
  · intro role trains pod member
    obtain ⟨place, here⟩ := List.mem_iff_getElem?.mp member
    obtain ⟨first, rank, address, -, rfl⟩ := laidByList_pod fits here
    cases role with
    | trainer => exact (trains rfl).elim
    | server => rfl
    | heterWorker => rfl

end Cut

/-- **Where the processes of a topology listen.** Each of them listens on its node, unless a
scheduler announces the endpoints of a collective job. Then the list holds equally many endpoints
for every node, one node after the other, and on each node the trainers take the first of them, one
for each device; there are no other processes. They listen on their nodes exactly when the list
names the node in these places. -/
theorem topology_resides (built : (config.topology node).result = .ok (cluster, index)) :
    (config.announcedList? node = none → cluster.Resident) ∧
    ∀ list, config.announcedList? node = some list → ∃ devices endpoints,
      config.devices node = .ok devices ∧ Endpoint.parseList list = .ok endpoints ∧
      cluster.FollowsList devices.length (announcedSize node devices.length) endpoints ∧
      (cluster.Resident ↔ ∀ place pod, cluster.pods[place]? = some pod →
        ∀ slot < devices.length, ∀ endpoint,
          endpoints[place * announcedSize node devices.length + slot]? = some endpoint →
            endpoint.host = pod.address) := by
  obtain ⟨address, derived, -⟩ := topology_eq_ok_iff.mp built
  cases derived with
  | servers kind resolved located =>
    have silent : config.announcedList? node = none :=
      if_neg fun both => by cases kind.symm.trans both.1
    refine ⟨fun _ => ParameterServer.assemble_resident _, fun list announced => ?_⟩
    cases silent.symm.trans announced
  | named kind absent selected located resolved fits =>
    have silent : config.announcedList? node = none :=
      if_neg fun both => by cases absent.symm.trans both.2
    refine ⟨fun _ => Collective.sites_resident _ _ _, fun list announced => ?_⟩
    cases silent.symm.trans announced
  | scheduled kind present selected placed resolved fits =>
    obtain ⟨-, -, rfl⟩ := Scheduler.Placement.ofEnvironment_eq_ok_iff.mp placed
    have announces : config.announcedList? node = _ := if_pos ⟨kind, present⟩
    rw [announces]
    constructor
    · intro unlisted
      obtain ⟨_, ports, -, rfl⟩ := Scheduler.Placement.sites_of_unlisted unlisted resolved
      exact Collective.sites_resident _ _ _
    · intro list listed
      rw [Scheduler.Placement.endpoints, listed] at resolved
      obtain ⟨endpoints, read, length, rfl⟩ :=
        Scheduler.Placement.cut_of_listedEndpoints resolved
      have follows := laidByList_follows length fits
      exact ⟨_, endpoints, selected, read, follows, follows.resident_iff⟩

/-- A node that is told by a scheduler that it runs the first of two trainers, and where both of
them listen. -/
def announcedNode (list : String) : Node :=
  { bareNode with
    environment := .ofList [
      ("PADDLE_TRAINERS", "10.0.0.1,10.0.0.2"),
      ("POD_IP", "10.0.0.1"),
      ("PADDLE_TRAINER_ID", "0"),
      ("PADDLE_TRAINERS_NUM", "2"),
      ("DISTRIBUTED_TRAINER_ENDPOINTS", list)] }

/-- A job on the first device of every node. -/
def oneDevice : LaunchConfig := { LaunchConfig.ofScript "train.py" with gpus := some "0" }

/-- The cluster of that job with these hosts to listen at. -/
def hostedCluster (first second : String) : Cluster := .ofPods [
  { Pod.empty 0 "10.0.0.1" with
    trainers := [⟨[0], ⟨first, 6170⟩, 0⟩]
    devices := [0] },
  { Pod.empty 1 "10.0.0.2" with
    trainers := [⟨[0], ⟨second, 6170⟩, 1⟩]
    devices := [0] }]

theorem topology_resides_announcedNode :
    (oneDevice.topology (announcedNode "10.0.0.1:6170,10.0.0.2:6170")).result =
        .ok (hostedCluster "10.0.0.1" "10.0.0.2", 0) ∧
      (hostedCluster "10.0.0.1" "10.0.0.2").Resident := by
  have built : (oneDevice.topology (announcedNode "10.0.0.1:6170,10.0.0.2:6170")).result =
      .ok (hostedCluster "10.0.0.1" "10.0.0.2", 0) := by
    decide +kernel
  obtain ⟨devices, endpoints, selected, read, -, resident⟩ :=
    (topology_resides built).2 "10.0.0.1:6170,10.0.0.2:6170" (by decide +kernel)
  have one : oneDevice.devices (announcedNode "10.0.0.1:6170,10.0.0.2:6170") = .ok [0] := by
    decide +kernel
  have two : Endpoint.parseList "10.0.0.1:6170,10.0.0.2:6170" =
      .ok [⟨"10.0.0.1", 6170⟩, ⟨"10.0.0.2", 6170⟩] := by
    decide +kernel
  have size : announcedSize (announcedNode "10.0.0.1:6170,10.0.0.2:6170") 1 = 1 := by
    decide +kernel
  cases one.symm.trans selected
  cases two.symm.trans read
  refine ⟨built, resident.mpr fun place pod here slot bound endpoint listed => ?_⟩
  rw [List.length_singleton, size, Nat.mul_one, Nat.lt_one_iff.mp bound] at listed
  match place with
  | 0 => cases here; cases listed; rfl
  | 1 => cases here; cases listed; rfl
  | _ + 2 => cases here

theorem topology_strays :
    (oneDevice.topology (announcedNode "10.0.0.2:6170,10.0.0.1:6170")).result =
        .ok (hostedCluster "10.0.0.2" "10.0.0.1", 0) ∧
      ¬(hostedCluster "10.0.0.2" "10.0.0.1").Resident := by
  refine ⟨by decide +kernel, fun resident => ?_⟩
  have strays := resident _ List.mem_cons_self .trainer _ List.mem_cons_self
  exact absurd strays (by decide)

end LaunchConfig

end TrainingLauncher
