/-
How the pods and the processes of a cluster are numbered. Both kinds of job count the pods from
zero, and in each role class the processes, from pod to pod without a gap, although the one does it
with a count for each role and the other from the number of devices.

* `Cluster.Numbered`: the numbers are those of the places.
* `Cluster.Numbered.podWithId?`, `Cluster.Numbered.endpoints`: what the queries of a cluster answer
  then.
* `ParameterServer.assemble_numbered`, `Collective.laid_numbered`: the clusters of both kinds of job
  are numbered.
* `Collective.podsFrom_of_fits`: the first rank of a pod, which is counted on from pod to pod, in
  closed form.
* `Collective.assemble_eq_ok_iff`: when there is a cluster of a collective job, and which.
-/

import Mathlib.Algebra.GroupWithZero.Nat
import Std.Data.String.ToNat
import TrainingLauncher.LaunchConfig

namespace TrainingLauncher

namespace Cluster

/-- The addresses of the pods, in order. -/
def addresses (cluster : Cluster) : List String := cluster.pods.map (·.address)

/-- Whatever is counted from zero carries the numbers of its places. -/
theorem map_eq_range {number : α → Nat} {items : List α} {count : Nat}
    (counted : items.map number = List.range' 0 count) :
    items.map number = List.range items.length := by
  have length := congrArg List.length counted
  rw [List.length_map, List.length_range'] at length
  rw [counted, length, List.range_eq_range']

/-- The pods carry the numbers of their places, and so do the processes of a role class, pod by
pod. -/
structure Numbered (cluster : Cluster) : Prop where
  ranks : cluster.pods.map (·.rank) = List.range cluster.pods.length
  ids : ∀ pod ∈ cluster.pods, pod.id = toString pod.rank
  processRanks : ∀ role,
    (cluster.processes role).map (·.rank) = List.range (cluster.processes role).length

section Queries

variable {cluster : Cluster} {place : Nat} {pod : Pod}

theorem Numbered.rank_eq (numbered : cluster.Numbered) (here : cluster.pods[place]? = some pod) :
    pod.rank = place := by
  have rank := congrArg (·[place]?) numbered.ranks
  simp only [List.getElem?_map, here, Option.map_some] at rank
  obtain ⟨bound, same⟩ := List.getElem?_eq_some_iff.mp rank.symm
  exact same.symm.trans (List.getElem_range bound)

theorem Numbered.id_eq (numbered : cluster.Numbered) (here : cluster.pods[place]? = some pod) :
    pod.id = toString place := by
  rw [numbered.ids pod (List.mem_of_getElem? here), numbered.rank_eq here]

/-- The pod with the number of a place as its id is the one in that place. -/
theorem Numbered.podWithId? (numbered : cluster.Numbered)
    (here : cluster.pods[place]? = some pod) : cluster.podWithId? (toString place) = some pod := by
  obtain ⟨bound, same⟩ := List.getElem?_eq_some_iff.mp here
  refine List.find?_eq_some_iff_getElem.mpr ⟨beq_iff_eq.mpr (numbered.id_eq here), place, bound,
    same, fun earlier before => ?_⟩
  have there := List.getElem?_eq_getElem (Nat.lt_trans before bound)
  rw [numbered.id_eq there, Bool.not_eq_true', beq_eq_false_iff_ne]
  exact fun equal => Nat.ne_of_lt before (Nat.repr_injective equal)

/-- The endpoints in the order of the ranks are the endpoints pod by pod. -/
theorem Numbered.endpoints (numbered : cluster.Numbered) (role : Role) :
    cluster.endpoints role = (cluster.processes role).map (·.endpoint) := by
  have ascending : ((cluster.processes role).map (·.rank)).Pairwise (· ≤ ·) := by
    rw [numbered.processRanks role]
    exact List.pairwise_lt_range.imp Nat.le_of_lt
  rw [Cluster.endpoints, List.mergeSort_of_pairwise]
  simpa [List.pairwise_map] using ascending

/-- A process stands where its rank says. -/
theorem Numbered.getElem?_rank (numbered : cluster.Numbered) {role : Role} {process : RoleProcess}
    (member : process ∈ cluster.processes role) :
    (cluster.processes role)[process.rank]? = some process := by
  obtain ⟨place, here⟩ := List.mem_iff_getElem?.mp member
  have ranked : ((cluster.processes role).map (·.rank))[place]? = some process.rank := by
    rw [List.getElem?_map, here, Option.map_some]
  rw [numbered.processRanks role] at ranked
  obtain ⟨bound, same⟩ := List.getElem?_eq_some_iff.mp ranked
  rw [List.getElem_range] at same
  rw [← same, here]

end Queries

end Cluster

namespace ParameterServer

variable {endpoints : RoleEndpoints}

theorem ranked_rank (first : Nat) (listed : List Endpoint) :
    (ranked first listed).map (·.rank) = List.range' first listed.length := by
  induction listed generalizing first with
  | nil => rfl
  | cons endpoint rest ih =>
    rw [ranked, List.map_cons, ih, List.length_cons, List.range'_succ]

theorem ranked_endpoint (first : Nat) (listed : List Endpoint) :
    (ranked first listed).map (·.endpoint) = listed := by
  induction listed generalizing first with
  | nil => rfl
  | cons endpoint rest ih => rw [ranked, List.map_cons, ih]

theorem ranked_append (first : Nat) (listed others : List Endpoint) :
    ranked first (listed ++ others) =
      ranked first listed ++ ranked (first + listed.length) others := by
  induction listed generalizing first with
  | nil => rfl
  | cons endpoint rest ih =>
    rw [List.cons_append, ranked, ih, ranked, List.length_cons, List.cons_append,
      Nat.add_right_comm, Nat.add_assoc]

theorem podsFrom_address (rank : Nat) (placed : Role → Nat) (hosts : List String) :
    (podsFrom endpoints rank placed hosts).map (·.address) = hosts := by
  induction hosts generalizing rank placed with
  | nil => rfl
  | cons host hosts ih => exact congrArg (host :: ·) (ih _ _)

theorem podsFrom_rank (rank : Nat) (placed : Role → Nat) (hosts : List String) :
    (podsFrom endpoints rank placed hosts).map (·.rank) = List.range' rank hosts.length := by
  induction hosts generalizing rank placed with
  | nil => rfl
  | cons host hosts ih => exact congrArg (rank :: ·) (ih _ _)

theorem podsFrom_id (rank : Nat) (placed : Role → Nat) (hosts : List String) :
    ∀ pod ∈ podsFrom endpoints rank placed hosts, pod.id = toString pod.rank := by
  induction hosts generalizing rank placed with
  | nil => exact fun _ member => by cases member
  | cons host hosts ih =>
    intro pod member
    rcases List.mem_cons.mp member with rfl | member
    · rfl
    · exact ih _ _ pod member

/-- A pod holds the endpoints of its host, in listed order. -/
theorem podsFrom_endpoints (rank : Nat) (placed : Role → Nat) (hosts : List String) :
    ∀ pod ∈ podsFrom endpoints rank placed hosts, ∀ role,
      (pod.processes role).map (·.endpoint) = endpoints.onHost role pod.address := by
  induction hosts generalizing rank placed with
  | nil => exact fun _ member => by cases member
  | cons host hosts ih =>
    refine List.forall_mem_cons.mpr ⟨fun role => ?_, ih _ _⟩
    cases role <;> exact ranked_endpoint _ _

/-- **The processes of a role class are ranked through all pods.** The count of those that are
placed already is the only thing that the pods before have to hand on. -/
theorem podsFrom_processes (role : Role) (rank : Nat) (placed : Role → Nat)
    (hosts : List String) :
    (podsFrom endpoints rank placed hosts).flatMap (·.processes role) =
      ranked (placed role) (hosts.flatMap (endpoints.onHost role)) := by
  induction hosts generalizing rank placed with
  | nil => rfl
  | cons host hosts ih =>
    rw [podsFrom, List.flatMap_cons, ih, List.flatMap_cons, ranked_append]
    cases role <;> rfl

theorem assemble_processes (hosts : List String) (role : Role) :
    (assemble hosts endpoints).processes role = ranked 0 (hosts.flatMap (endpoints.onHost role)) :=
  podsFrom_processes role 0 _ hosts

theorem assemble_addresses (hosts : List String) : (assemble hosts endpoints).addresses = hosts :=
  podsFrom_address 0 _ hosts

theorem assemble_pod_endpoints {hosts : List String} {pod : Pod}
    (member : pod ∈ (assemble hosts endpoints).pods) (role : Role) :
    (pod.processes role).map (·.endpoint) = endpoints.onHost role pod.address :=
  podsFrom_endpoints 0 _ hosts pod member role

/-- **The cluster of a parameter-server job is numbered.** -/
theorem assemble_numbered (hosts : List String) : (assemble hosts endpoints).Numbered where
  ranks := Cluster.map_eq_range (podsFrom_rank 0 _ hosts)
  ids := podsFrom_id 0 _ hosts
  processRanks role := by
    rw [assemble_processes]
    exact Cluster.map_eq_range (ranked_rank 0 _)

end ParameterServer

namespace Collective

/-- Every node has a list of endpoints, and every list an endpoint for each device. -/
structure Fits (devices : List DeviceId) (nodes : List String) (lists : List (List Endpoint)) :
    Prop where
  lengths : lists.length = nodes.length
  enough : ∀ list ∈ lists, devices.length ≤ list.length

/-- The pods of the nodes from `rank` on, whether or not there are enough endpoints. -/
def podsOf (devices : List DeviceId) (rank : Nat) : List String → List (List Endpoint) → List Pod
  | address :: addresses, endpoints :: lists =>
    podFrom (rank * devices.length) rank address devices endpoints ::
      podsOf devices (rank + 1) addresses lists
  | _, _ => []

/-- The cluster with one pod per node. -/
def laid (devices : List DeviceId) (nodes : List String) (lists : List (List Endpoint)) : Cluster :=
  .ofPods (podsOf devices 0 nodes lists)

variable {devices : List DeviceId} {nodes : List String} {lists : List (List Endpoint)}

theorem Fits.nil_left (fits : Fits devices [] lists) : lists = [] :=
  List.length_eq_zero_iff.mp fits.lengths

theorem Fits.cons_left {address : String} (fits : Fits devices (address :: nodes) lists) :
    ∃ endpoints others, lists = endpoints :: others ∧ devices.length ≤ endpoints.length ∧
      Fits devices nodes others := by
  cases lists with
  | nil => cases fits.lengths
  | cons endpoints others =>
    exact ⟨endpoints, others, rfl, fits.enough _ List.mem_cons_self, Nat.succ.inj fits.lengths,
      fun list member => fits.enough list (List.mem_cons_of_mem _ member)⟩

section Trainers

theorem trainersFrom_rank (first : Nat) {devices : List DeviceId} {endpoints : List Endpoint}
    (enough : devices.length ≤ endpoints.length) :
    (trainersFrom first devices endpoints).map (·.rank) = List.range' first devices.length := by
  induction devices generalizing first endpoints with
  | nil => rfl
  | cons device devices ih =>
    cases endpoints with
    | nil => cases enough
    | cons endpoint endpoints =>
      exact congrArg (first :: ·) (ih _ (Nat.le_of_succ_le_succ enough))

theorem length_trainersFrom (first : Nat) {devices : List DeviceId} {endpoints : List Endpoint}
    (enough : devices.length ≤ endpoints.length) :
    (trainersFrom first devices endpoints).length = devices.length := by
  rw [← List.length_map (·.rank), trainersFrom_rank first enough, List.length_range']

theorem trainersFrom_endpoint (first : Nat) (devices : List DeviceId) (endpoints : List Endpoint) :
    (trainersFrom first devices endpoints).map (·.endpoint) = endpoints.take devices.length := by
  induction devices generalizing first endpoints with
  | nil => rfl
  | cons device devices ih =>
    cases endpoints with
    | nil => rfl
    | cons endpoint endpoints => exact congrArg (endpoint :: ·) (ih _ _)

end Trainers

section Assembly

variable {first rank : Nat} {pods : List Pod}

/-- As every pod has one trainer per device, the trainers before a pod are as many as the devices of
the nodes before it. -/
theorem podsFrom_of_fits (rank : Nat) (fits : Fits devices nodes lists) :
    podsFrom devices (rank * devices.length) rank nodes lists =
      .ok (podsOf devices rank nodes lists) := by
  induction nodes generalizing rank lists with
  | nil => rw [fits.nil_left]; rfl
  | cons address nodes ih =>
    obtain ⟨endpoints, others, rfl, enough, rest⟩ := fits.cons_left
    have later : rank * devices.length +
        (podFrom (rank * devices.length) rank address devices endpoints).trainers.length =
          (rank + 1) * devices.length := by
      rw [Nat.succ_mul]
      exact congrArg _ (length_trainersFrom _ enough)
    rw [podsFrom, if_neg (Nat.not_lt.mpr enough)]
    dsimp only
    rw [later, ih _ rest]
    rfl

/-- The first trainer of all has rank 0. -/
theorem podsFrom_zero (fits : Fits devices nodes lists) :
    podsFrom devices 0 0 nodes lists = .ok (podsOf devices 0 nodes lists) := by
  have start := podsFrom_of_fits 0 fits
  rwa [Nat.zero_mul] at start

theorem enough_of_podsFrom (lengths : lists.length = nodes.length)
    (built : podsFrom devices first rank nodes lists = .ok pods) :
    ∀ list ∈ lists, devices.length ≤ list.length := by
  induction nodes generalizing first rank lists pods with
  | nil =>
    rw [List.length_eq_zero_iff.mp lengths]
    exact fun _ member => by cases member
  | cons address nodes ih =>
    cases lists with
    | nil => cases lengths
    | cons endpoints others =>
      rw [podsFrom] at built
      split at built
      · cases built
      · rename_i enough
        obtain ⟨pods, rest, -⟩ := bind_eq_ok_iff.mp built
        exact List.forall_mem_cons.mpr ⟨Nat.not_lt.mp enough, ih (Nat.succ.inj lengths) rest⟩

/-- **When there is a cluster of a collective job, and which**: every node needs a list with an
endpoint for each device, and the local node must be one of the nodes. -/
theorem assemble_eq_ok_iff {localNode : String} {cluster : Cluster} {index : Nat} :
    assemble nodes localNode lists devices = .ok (cluster, index) ↔
      Fits devices nodes lists ∧ cluster = laid devices nodes lists ∧
        nodes.idxOf? localNode = some index := by
  rw [assemble]
  by_cases lengths : lists.length = nodes.length
  · rw [if_neg (not_not_intro lengths)]
    constructor
    · intro built
      cases rest : podsFrom devices 0 0 nodes lists with
      | error error => rw [rest] at built; cases built
      | ok pods =>
        have fits : Fits devices nodes lists := ⟨lengths, enough_of_podsFrom lengths rest⟩
        rw [podsFrom_zero fits] at built
        cases found : nodes.idxOf? localNode with
        | none => rw [found] at built; cases built
        | some place =>
          rw [found] at built
          cases built
          exact ⟨fits, rfl, rfl⟩
    · rintro ⟨fits, rfl, found⟩
      rw [podsFrom_zero fits, found]
      rfl
  · rw [if_pos lengths]
    constructor
    · intro built
      cases built
    · rintro ⟨fits, -⟩
      exact (lengths fits.lengths).elim

end Assembly

section Laid

theorem podsOf_address (rank : Nat) (fits : Fits devices nodes lists) :
    (podsOf devices rank nodes lists).map (·.address) = nodes := by
  induction nodes generalizing rank lists with
  | nil => rw [fits.nil_left]; rfl
  | cons address nodes ih =>
    obtain ⟨endpoints, others, rfl, -, rest⟩ := fits.cons_left
    exact congrArg (address :: ·) (ih _ rest)

theorem podsOf_rank (rank : Nat) (fits : Fits devices nodes lists) :
    (podsOf devices rank nodes lists).map (·.rank) = List.range' rank nodes.length := by
  induction nodes generalizing rank lists with
  | nil => rw [fits.nil_left]; rfl
  | cons address nodes ih =>
    obtain ⟨endpoints, others, rfl, -, rest⟩ := fits.cons_left
    exact congrArg (rank :: ·) (ih _ rest)

theorem podsOf_id (rank : Nat) (fits : Fits devices nodes lists) :
    ∀ pod ∈ podsOf devices rank nodes lists, pod.id = toString pod.rank := by
  induction nodes generalizing rank lists with
  | nil => rw [fits.nil_left]; exact fun _ member => by cases member
  | cons address nodes ih =>
    obtain ⟨endpoints, others, rfl, -, rest⟩ := fits.cons_left
    exact List.forall_mem_cons.mpr ⟨rfl, ih _ rest⟩

/-- **The trainers are ranked through all pods**: each pod starts where the devices of those before
it end. -/
theorem podsOf_trainer_rank (rank : Nat) (fits : Fits devices nodes lists) :
    ((podsOf devices rank nodes lists).flatMap (·.trainers)).map (·.rank) =
      List.range' (rank * devices.length) (nodes.length * devices.length) := by
  induction nodes generalizing rank lists with
  | nil => rw [fits.nil_left, List.length_nil, Nat.zero_mul]; rfl
  | cons address nodes ih =>
    obtain ⟨endpoints, others, rfl, enough, rest⟩ := fits.cons_left
    rw [podsOf, List.flatMap_cons, List.map_append, ih _ rest]
    show (trainersFrom _ devices endpoints).map _ ++ _ = _
    rw [trainersFrom_rank _ enough, Nat.succ_mul, List.range'_append_1, List.length_cons,
      Nat.succ_mul, Nat.add_comm]

theorem podsOf_trainer_endpoint (rank : Nat) (fits : Fits devices nodes lists) :
    ((podsOf devices rank nodes lists).flatMap (·.trainers)).map (·.endpoint) =
      lists.flatMap (·.take devices.length) := by
  induction nodes generalizing rank lists with
  | nil => rw [fits.nil_left]; rfl
  | cons address nodes ih =>
    obtain ⟨endpoints, others, rfl, -, rest⟩ := fits.cons_left
    rw [podsOf, List.flatMap_cons, List.map_append, ih _ rest, List.flatMap_cons]
    show (trainersFrom _ devices endpoints).map _ ++ _ = _
    rw [trainersFrom_endpoint]

theorem laid_addresses (fits : Fits devices nodes lists) :
    (laid devices nodes lists).addresses = nodes :=
  podsOf_address 0 fits

/-- A collective job has no process but trainers. -/
theorem laid_processes_of_ne {role : Role} (other : role ≠ .trainer) :
    (laid devices nodes lists).processes role = [] := by
  have empty (rank : Nat) : (podsOf devices rank nodes lists).flatMap (·.processes role) = [] := by
    induction nodes generalizing rank lists with
    | nil => rfl
    | cons address nodes ih =>
      cases lists with
      | nil => rfl
      | cons endpoints others =>
        rw [podsOf, List.flatMap_cons, ih]
        cases role <;> first | rfl | exact (other rfl).elim
  exact empty 0

/-- **The cluster of a collective job is numbered.** -/
theorem laid_numbered (fits : Fits devices nodes lists) : (laid devices nodes lists).Numbered where
  ranks := Cluster.map_eq_range (podsOf_rank 0 fits)
  ids := podsOf_id 0 fits
  processRanks role := by
    by_cases trainers : role = .trainer
    · subst trainers
      have rank := podsOf_trainer_rank 0 fits
      rw [Nat.zero_mul] at rank
      exact Cluster.map_eq_range rank
    · rw [laid_processes_of_ne trainers]
      rfl

end Laid

end Collective

end TrainingLauncher
