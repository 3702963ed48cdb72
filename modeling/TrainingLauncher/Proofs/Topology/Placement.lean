/-
Where the processes of a parameter-server job are placed. There is a pod for every host, in the
order in which the hosts first appear, and it takes the endpoints of its host out of every list, in
the order of the list.

* `ParameterServer.firstSeen_ordered`: hosts keep the order of their first appearances.
* `ParameterServer.RoleEndpoints.Placed`: what a placement does with the endpoints.
* `ParameterServer.assemble_placed`: the cluster of the nodes is such a placement.
-/

import TrainingLauncher.Proofs.Topology.Distinctness

namespace TrainingLauncher.ParameterServer

/-- Texts without repeats keep the order in which they first appear. -/
theorem firstSeen_ordered {seen texts : List String} :
    (RoleEndpoints.firstSeen seen texts).Pairwise fun one other =>
      texts.idxOf one < texts.idxOf other := by
  induction texts generalizing seen with
  | nil => exact .nil
  | cons first rest ih =>
    -- behind the first text, the place of another one is counted from one
    have behind {text : String} (other : text ≠ first) :
        (first :: rest).idxOf text = rest.idxOf text + 1 := List.idxOf_cons_ne _ other.symm
    have shifted {seen : List String} (known : first ∈ seen) :
        (RoleEndpoints.firstSeen seen rest).Pairwise fun one other =>
          (first :: rest).idxOf one < (first :: rest).idxOf other := by
      refine (@ih seen).imp_of_mem fun here there before => ?_
      have fresh {text : String} (member : text ∈ RoleEndpoints.firstSeen seen rest) :
          text ≠ first := fun same => (mem_firstSeen.mp member).2 (same ▸ known)
      rw [behind (fresh here), behind (fresh there)]
      exact Nat.succ_lt_succ before
    rw [RoleEndpoints.firstSeen]
    split
    · rename_i known
      exact shifted (List.contains_iff_mem.mp known)
    · refine List.pairwise_cons.mpr ⟨fun other member => ?_, shifted List.mem_cons_self⟩
      have fresh : other ≠ first := fun same =>
        (mem_firstSeen.mp member).2 (same ▸ List.mem_cons_self)
      rw [List.idxOf_cons_self, behind fresh]
      exact Nat.succ_pos _

/-- What a placement does with the endpoints of a job. -/
structure RoleEndpoints.Placed (endpoints : RoleEndpoints) (cluster : Cluster) : Prop where
  /-- The addresses of the pods are the hosts of the endpoints. -/
  hosts : ∀ host, host ∈ cluster.addresses ↔ ∃ endpoint ∈ endpoints.all, endpoint.host = host
  /-- They stand, without repeats, in the order of their first appearances. -/
  ordered : cluster.addresses.Pairwise fun one other =>
    (endpoints.all.map (·.host)).idxOf one < (endpoints.all.map (·.host)).idxOf other
  /-- A pod takes the endpoints of its host out of every list. -/
  holds : ∀ pod ∈ cluster.pods, ∀ role,
    (pod.processes role).map (·.endpoint) =
      (endpoints.ofRole role).filter (·.host == pod.address)
  /-- A listed endpoint is on one pod, as often as it is listed, and on no other. -/
  once : ∀ role, ∀ endpoint ∈ endpoints.ofRole role, ∃ pod ∈ cluster.pods,
    ((pod.processes role).map (·.endpoint)).count endpoint =
        (endpoints.ofRole role).count endpoint ∧
      ∀ other ∈ cluster.pods, endpoint ∈ (other.processes role).map (·.endpoint) → other = pod
  /-- None is lost and none is invented. -/
  complete : ∀ role,
    ((cluster.processes role).map (·.endpoint)).Perm (endpoints.ofRole role)
  inhabited : ∀ pod ∈ cluster.pods, ∃ role, pod.processes role ≠ []
  /-- The endpoints of a role are those that are listed, regrouped by the pods. -/
  regrouped : ∀ role, cluster.endpoints role =
    cluster.addresses.flatMap fun host => (endpoints.ofRole role).filter (·.host == host)
  /-- There is a process for every rank. -/
  ranks : ∀ role, (cluster.processes role).map (·.rank) = List.range (cluster.endpoints role).length
  /-- The entry at a rank is the endpoint of the process of that rank. -/
  stands : ∀ role, ∀ process ∈ cluster.processes role,
    (cluster.endpoints role)[process.rank]? = some process.endpoint

section Assembly

variable {endpoints : RoleEndpoints}

/-- There is a pod for the host of every endpoint. -/
theorem exists_pod {endpoint : Endpoint} (member : endpoint ∈ endpoints.all) :
    ∃ pod ∈ (assemble endpoints.nodes endpoints).pods, pod.address = endpoint.host := by
  have known : endpoint.host ∈ (assemble endpoints.nodes endpoints).addresses := by
    rw [assemble_addresses]
    exact RoleEndpoints.mem_nodes.mpr ⟨endpoint, member, rfl⟩
  exact List.mem_map.mp known

/-- No two pods have one address. -/
theorem pod_eq_of_address {pod other : Pod} (here : pod ∈ (assemble endpoints.nodes endpoints).pods)
    (there : other ∈ (assemble endpoints.nodes endpoints).pods)
    (same : pod.address = other.address) : pod = other := by
  have distinct : (assemble endpoints.nodes endpoints).addresses.Nodup := by
    rw [assemble_addresses]
    exact firstSeen_nodup
  exact List.inj_on_of_nodup_map distinct here there same

/-- **A listed endpoint is placed on the pod of its host**, as often as it is listed, and on no
other. -/
theorem assemble_once {role : Role} {endpoint : Endpoint}
    (member : endpoint ∈ endpoints.ofRole role) :
    ∃ pod ∈ (assemble endpoints.nodes endpoints).pods,
      ((pod.processes role).map (·.endpoint)).count endpoint =
          (endpoints.ofRole role).count endpoint ∧
        ∀ other ∈ (assemble endpoints.nodes endpoints).pods,
          endpoint ∈ (other.processes role).map (·.endpoint) → other = pod := by
  obtain ⟨pod, here, same⟩ := exists_pod (RoleEndpoints.mem_all.mpr ⟨role, member⟩)
  refine ⟨pod, here, ?_, fun other there found => ?_⟩
  · rw [assemble_pod_endpoints here, RoleEndpoints.onHost, List.count_filter]
    exact beq_iff_eq.mpr same.symm
  · rw [assemble_pod_endpoints there] at found
    have alike : endpoint.host = other.address := beq_iff_eq.mp (List.mem_filter.mp found).2
    exact pod_eq_of_address there here (alike.symm.trans same.symm)

/-- No pod is empty. -/
theorem assemble_inhabited {pod : Pod} (here : pod ∈ (assemble endpoints.nodes endpoints).pods) :
    ∃ role, pod.processes role ≠ [] := by
  have known : pod.address ∈ (assemble endpoints.nodes endpoints).addresses :=
    List.mem_map_of_mem here
  rw [assemble_addresses] at known
  obtain ⟨endpoint, member, same⟩ := RoleEndpoints.mem_nodes.mp known
  obtain ⟨role, member⟩ := RoleEndpoints.mem_all.mp member
  have placed : endpoint ∈ (pod.processes role).map (·.endpoint) := by
    rw [assemble_pod_endpoints here]
    exact List.mem_filter.mpr ⟨member, beq_iff_eq.mpr same⟩
  refine ⟨role, fun empty => ?_⟩
  rw [empty] at placed
  cases placed

/-- The endpoints of a role are listed pod by pod. -/
theorem assemble_endpoints (hosts : List String) (role : Role) :
    (assemble hosts endpoints).endpoints role = hosts.flatMap (endpoints.onHost role) := by
  rw [(assemble_numbered hosts).endpoints, assemble_processes, ranked_endpoint]

end Assembly

/-- **Every endpoint of a parameter-server job is placed once**, on the pod of its host. The pods
stand in the order in which the hosts first appear, and the processes of a role are ranked pod by
pod, in the order of the list. -/
theorem assemble_placed (endpoints : RoleEndpoints) :
    endpoints.Placed (assemble endpoints.nodes endpoints) where
  hosts host := by
    rw [assemble_addresses]
    exact RoleEndpoints.mem_nodes
  ordered := by
    rw [assemble_addresses]
    exact firstSeen_ordered
  holds pod member role := assemble_pod_endpoints member role
  once role endpoint member := assemble_once member
  complete := assemble_endpoints_perm endpoints
  inhabited pod := assemble_inhabited
  regrouped role := by
    rw [assemble_endpoints, assemble_addresses]
    rfl
  ranks role := by
    have numbered := @assemble_numbered endpoints endpoints.nodes
    rw [numbered.processRanks, numbered.endpoints, List.length_map]
  stands role process member := by
    have numbered := @assemble_numbered endpoints endpoints.nodes
    rw [numbered.endpoints, List.getElem?_map, numbered.getElem?_rank member, Option.map_some]

/-- Hosts that take turns in a list. -/
def interleaved : RoleEndpoints where
  servers := [⟨"b", 1⟩, ⟨"a", 2⟩, ⟨"b", 3⟩]
  workers := [⟨"c", 4⟩, ⟨"a", 5⟩]
  heterWorkers := []

theorem assemble_placed_interleaved :
    (assemble interleaved.nodes interleaved).addresses = ["b", "a", "c"] ∧
      (assemble interleaved.nodes interleaved).endpoints .server =
        [⟨"b", 1⟩, ⟨"b", 3⟩, ⟨"a", 2⟩] := by
  have addresses : (assemble interleaved.nodes interleaved).addresses = ["b", "a", "c"] := by
    decide
  refine ⟨addresses, ?_⟩
  rw [(assemble_placed interleaved).regrouped, addresses]
  decide

end TrainingLauncher.ParameterServer
