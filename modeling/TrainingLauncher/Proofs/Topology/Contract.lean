/-
What the processes of a job are told of each other fits together. Everybody is handed lists of
endpoints, written with commas, and finds itself in one of them by its rank. For this the ranks have
to be places, and no host may have a comma in it: hosts come from lists that were split at commas.

* `LaunchConfig.Derives.commaless`: no host of a cluster has a comma in it.
* `Cluster.Numbered.stands`: in the written list of a role every process stands at its rank.
* `LaunchConfig.topology_tells`: what the variables of every process of a job say.
-/

import TrainingLauncher.Environment.Role
import TrainingLauncher.Proofs.Environment
import TrainingLauncher.Proofs.Fields
import TrainingLauncher.Proofs.Topology.Agreement
import TrainingLauncher.Proofs.Topology.Distinctness

namespace TrainingLauncher

open Text

section Hosts

/-- Ports on hosts without commas. -/
theorem Collective.sites_commaless {nodes : List String} {ports : List Port}
    (commaless : ∀ address ∈ nodes, ',' ∉ address.toList) :
    ∀ list ∈ sites nodes ports, ∀ endpoint ∈ list, endpoint.Commaless := by
  intro list member endpoint inside
  obtain ⟨address, listed, rfl⟩ := List.mem_map.mp member
  obtain ⟨port, -, rfl⟩ := List.mem_map.mp inside
  exact commaless address listed

theorem LaunchConfig.nodes_commaless (config : LaunchConfig) :
    ∀ address ∈ config.nodes, ',' ∉ address.toList := by
  intro address member
  rw [LaunchConfig.nodes] at member
  split at member
  · obtain rfl := List.mem_singleton.mp member
    decide
  · exact commaless_of_mem_entries member

namespace Scheduler.Placement

variable {placement : Placement} {deviceCount : Nat} {lists : List (List Endpoint)}

theorem mem_of_mem_cut {size count : Nat} {endpoints list : List Endpoint} {endpoint : Endpoint}
    (member : list ∈ cut size count endpoints) (inside : endpoint ∈ list) :
    endpoint ∈ endpoints := by
  induction count generalizing endpoints with
  | zero => cases member
  | succ count ih =>
    rcases List.mem_cons.mp member with rfl | member
    · exact List.mem_of_mem_take inside
    · exact List.mem_of_mem_drop (ih member)

/-- The scheduler's endpoints come from its list of them. -/
theorem listedEndpoints_commaless {list : String}
    (listed : placement.listedEndpoints deviceCount list = .ok lists) :
    ∀ list ∈ lists, ∀ endpoint ∈ list, endpoint.Commaless := by
  obtain ⟨endpoints, read, listed⟩ := bind_eq_ok_iff.mp listed
  dsimp only at listed
  split at listed
  · cases listed
  · obtain ⟨expected, -, listed⟩ := bind_eq_ok_iff.mp listed
    split at listed
    · cases listed
    · cases listed
      intro list member endpoint inside
      exact Endpoint.parseList_commaless read endpoint (mem_of_mem_cut member inside)

theorem endpoints_commaless {environment : Environment} {start : Port}
    (placed : ofEnvironment environment = .ok placement)
    (resolved : (placement.endpoints deviceCount start).result = .ok lists) :
    ∀ list ∈ lists, ∀ endpoint ∈ list, endpoint.Commaless := by
  cases given : placement.endpointList with
  | some list =>
    rw [endpoints, given] at resolved
    exact listedEndpoints_commaless resolved
  | none =>
    obtain ⟨_, ports, -, rfl⟩ := sites_of_unlisted given resolved
    obtain ⟨-, -, rfl⟩ := ofEnvironment_eq_ok_iff.mp placed
    exact Collective.sites_commaless fun address => commaless_of_mem_entries

end Scheduler.Placement

namespace ParameterServer

theorem localHost_commaless : ',' ∉ localHost.toList := by
  decide

/-- The endpoints of a role are there, and come from a list or are the local host's. -/
theorem RoleSpec.resolve_sound {spec : RoleSpec} {role : Role} {offset : Nat}
    {startPort : Option Port} {placed : List Endpoint}
    (resolved : spec.resolve role offset startPort = .ok placed) :
    placed ≠ [] ∧ ∀ endpoint ∈ placed, endpoint.Commaless := by
  have yields := RoleSpec.resolve_eq_ok_iff.mp resolved
  refine ⟨yields.ne_nil, fun endpoint member => ?_⟩
  cases yields with
  | listed lists read => exact Endpoint.parseList_commaless read endpoint member
  | counted counts =>
    obtain ⟨port, -, rfl⟩ := List.mem_map.mp member
    exact localHost_commaless

end ParameterServer

variable {config : LaunchConfig} {node : Node} {cluster : Cluster} {address : String}

/-- The processes of a collective job are at the first endpoints of the nodes' lists. -/
theorem Collective.laid_commaless {devices : List DeviceId} {nodes : List String}
    {lists : List (List Endpoint)} (fits : Fits devices nodes lists)
    (commaless : ∀ list ∈ lists, ∀ endpoint ∈ list, endpoint.Commaless) :
    ∀ endpoint ∈ (laid devices nodes lists).allEndpoints, endpoint.Commaless := by
  intro endpoint member
  rw [laid_allEndpoints fits] at member
  obtain ⟨list, listed, inside⟩ := List.mem_flatMap.mp member
  exact commaless list listed endpoint (List.mem_of_mem_take inside)

/-- **No host of a cluster has a comma in it**, wherever the cluster comes from. -/
theorem LaunchConfig.Derives.commaless (derived : config.Derives node cluster address) :
    ∀ endpoint ∈ cluster.allEndpoints, endpoint.Commaless := by
  cases derived with
  | servers kind resolved =>
    intro endpoint member
    obtain ⟨role, -, member⟩ := List.mem_flatMap.mp member
    have placed := (ParameterServer.assemble_endpoints_perm _ role).mem_iff.mp member
    have found := ParameterServer.Description.endpoints_ofRole resolved role
    split at found
    · exact (ParameterServer.RoleSpec.resolve_sound found).2 endpoint placed
    · rw [found] at placed
      cases placed
  | scheduled kind present selected placed resolved fits =>
    exact Collective.laid_commaless fits
      (Scheduler.Placement.endpoints_commaless placed resolved)
  | named kind absent selected located resolved fits =>
    exact Collective.laid_commaless fits (Collective.sites_commaless config.nodes_commaless)

/-- A parameter-server job has a worker. -/
theorem LaunchConfig.Derives.trainers_ne_nil (derived : config.Derives node cluster address)
    (kind : config.kind = .parameterServer) : cluster.processes .trainer ≠ [] := by
  cases derived with
  | @servers endpoints _ _ _ resolved =>
    intro nobody
    have placed := ParameterServer.assemble_endpoints_perm endpoints .trainer
    have found := ParameterServer.Description.endpoints_ofRole resolved .trainer
    rw [nobody] at placed
    exact (ParameterServer.RoleSpec.resolve_sound found).1 placed.symm.eq_nil
  | scheduled other => exact absurd (other.symm.trans kind) (by decide)
  | named other => exact absurd (other.symm.trans kind) (by decide)

end Hosts

section Lists

variable {cluster : Cluster} {role : Role}

/-- A list of the endpoints of a role class has an entry for each of its processes. -/
theorem Cluster.fields_endpoints (numbered : cluster.Numbered)
    (commaless : ∀ endpoint ∈ cluster.allEndpoints, endpoint.Commaless)
    (filled : cluster.processes role ≠ []) :
    fields (Endpoint.join (cluster.endpoints role)) =
      (cluster.processes role).map (·.endpoint.text) := by
  have complete : role ∈ Role.all := by cases role <;> decide
  rw [numbered.endpoints role, Endpoint.fields_join (by simpa using filled), List.map_map]
  · rfl
  · exact fun endpoint member => commaless endpoint (List.mem_flatMap.mpr ⟨role, complete, member⟩)

/-- **In the written list of a role class every process stands at its rank.** -/
theorem Cluster.Numbered.stands (numbered : cluster.Numbered)
    (commaless : ∀ endpoint ∈ cluster.allEndpoints, endpoint.Commaless) {process : RoleProcess}
    (member : process ∈ cluster.processes role) :
    (fields (Endpoint.join (cluster.endpoints role)))[process.rank]? =
      some process.endpoint.text := by
  rw [cluster.fields_endpoints numbered commaless (List.ne_nil_of_mem member),
    List.getElem?_map, numbered.getElem?_rank member, Option.map_some]

end Lists

namespace Environment

/-- The variable is a list that has the text at the place. -/
def Lists (own : Environment) (name : String) (place : Nat) (text : String) : Prop :=
  ∃ list, own[name]? = some list ∧ (fields list)[place]? = some text

/-- The variable `number` is the number of entries of the list that is the variable `name`. -/
def Counts (own : Environment) (number name : String) : Prop :=
  ∃ list, own[name]? = some list ∧ own[number]? = some (toString (fields list).length)

namespace ServerJob

section Variables

variable {job : ServerJob} {role : Role} {process : RoleProcess} {slot : Nat} {own : Environment}
  {name : String}

/-- The variables in which the processes of a role class differ. -/
def ownVariables : List String :=
  "PADDLE_TRAINER_ID" :: "PADDLE_PORT" :: "POD_IP" :: affinityVariables

theorem affinity_getElem? (other : name ∉ affinityVariables) :
    (job.affinity slot)[name]? = none := by
  refine getElem?_ofList_of_notMem ?_
  rwa [List.map_map, show (Prod.fst ∘ fun name => (name, toString (slot % job.deviceCount))) = id
    from rfl, List.map_id]

theorem listening_getElem? (other : name ∉ ownVariables) : (listening process)[name]? = none := by
  refine getElem?_ofList_of_notMem fun member => other (List.mem_cons_of_mem _ ?_)
  exact List.mem_append_left affinityVariables member

theorem rank_getElem? (other : name ∉ ownVariables) :
    (ofList [("PADDLE_TRAINER_ID", toString process.rank)])[name]? = none :=
  getElem?_ofList_of_notMem fun member =>
    other (List.mem_append_left ("PADDLE_PORT" :: "POD_IP" :: affinityVariables) member)

theorem common_getElem? (job : ServerJob) (role : Role) :
    (job.common role)["PADDLE_PSERVERS_IP_PORT_LIST"]? = some job.servers ∧
      (job.common role)["PADDLE_TRAINER_ENDPOINTS"]? = some job.workers ∧
      (job.common role)["PADDLE_HETER_TRAINER_IP_PORT_LIST"]? = some job.heterWorkers ∧
      (job.common role)["PADDLE_TRAINERS_NUM"]? = some (toString job.workerCount) := by
  simp [common, Environment.rendezvous, getElem?_under, getElem?_ofList, List.lookup_cons]

/-- What the processes of a role class have in common is what each of them is told. -/
theorem environment_common (answered : job.environment role process slot = .ok own)
    (shared : name ∉ ownVariables) : own[name]? = (job.common role)[name]? := by
  have unbound : name ∉ affinityVariables := fun bound =>
    shared (List.mem_cons_of_mem _ (List.mem_cons_of_mem _ (List.mem_cons_of_mem _ bound)))
  cases role with
  | trainer =>
    cases answered
    split
    · rw [getElem?_under, rank_getElem? shared, Option.none_or]
    · rw [getElem?_under, affinity_getElem? unbound, Option.none_or, getElem?_under,
        rank_getElem? shared, Option.none_or]
  | server =>
    cases answered
    rw [getElem?_under, listening_getElem? shared, Option.none_or]
  | heterWorker =>
    rw [environment] at answered
    split at answered
    · cases answered
    · cases answered
      rw [getElem?_under, affinity_getElem? unbound, Option.none_or, getElem?_under,
        listening_getElem? shared, Option.none_or]

/-- A worker is told its rank. -/
theorem environment_rank (answered : job.environment .trainer process slot = .ok own) :
    own["PADDLE_TRAINER_ID"]? = some (toString process.rank) := by
  have ranked : (ofList [("PADDLE_TRAINER_ID", toString process.rank)])["PADDLE_TRAINER_ID"]? =
      some (toString process.rank) := by
    rw [getElem?_ofList]
    rfl
  cases answered
  split
  · rw [getElem?_under, ranked, Option.some_or]
  · rw [getElem?_under, affinity_getElem? (by decide), Option.none_or, getElem?_under, ranked,
      Option.some_or]

/-- A process that others connect to is told where it listens. -/
theorem environment_listening (serves : role ≠ .trainer)
    (answered : job.environment role process slot = .ok own) :
    own["POD_IP"]? = some process.endpoint.host ∧
      own["PADDLE_PORT"]? = some (toString process.endpoint.port.toNat) := by
  have told : (listening process)["POD_IP"]? = some process.endpoint.host ∧
      (listening process)["PADDLE_PORT"]? = some (toString process.endpoint.port.toNat) := by
    simp [listening, getElem?_ofList, List.lookup_cons]
  cases role with
  | trainer => exact (serves rfl).elim
  | server =>
    cases answered
    rw [getElem?_under, told.1, getElem?_under, told.2]
    exact ⟨rfl, rfl⟩
  | heterWorker =>
    rw [environment] at answered
    split at answered
    · cases answered
    · cases answered
      rw [getElem?_under, affinity_getElem? (by decide), getElem?_under, told.1, getElem?_under,
        affinity_getElem? (by decide), getElem?_under, told.2]
      exact ⟨rfl, rfl⟩

end Variables

end ServerJob

end Environment

section Contract

variable {config : LaunchConfig} {node : Node} {cluster : Cluster} {index : Nat}

namespace LaunchConfig

/-- **What the processes of a job are told fits together.** The trainers of a collective job are
told as many trainers as their list has entries, and find their endpoint in it at their rank. So do
the workers of a parameter-server job; its servers and heter workers find the address and the port
that they are told at their rank in the list of their role class. -/
theorem topology_tells
    (built : (config.topology node).result = .ok (cluster, index)) :
    (config.kind = .collective → ∀ pod ∈ cluster.pods, ∀ trainer ∈ pod.trainers,
      (Environment.ofTrainer cluster trainer).Counts "PADDLE_TRAINERS_NUM"
          "PADDLE_TRAINER_ENDPOINTS" ∧
        ∃ (rank : Nat) (endpoint : String),
          (Environment.ofTrainer cluster trainer)["PADDLE_TRAINER_ID"]? = some (toString rank) ∧
          (Environment.ofTrainer cluster trainer)["PADDLE_CURRENT_ENDPOINT"]? = some endpoint ∧
          (Environment.ofTrainer cluster trainer).Lists "PADDLE_TRAINER_ENDPOINTS" rank
            endpoint) ∧
    (config.kind = .parameterServer → ∀ pod ∈ cluster.pods, ∀ role,
      ∀ process ∈ pod.processes role, ∀ device count directory slot own,
        (Environment.ServerJob.ofCluster cluster device count directory).environment role process
          slot = .ok own →
        own.Counts "PADDLE_TRAINERS_NUM" "PADDLE_TRAINER_ENDPOINTS" ∧
          match role with
          | .trainer => ∃ rank : Nat, own["PADDLE_TRAINER_ID"]? = some (toString rank) ∧
              own.Lists "PADDLE_TRAINER_ENDPOINTS" rank process.endpoint.text
          | .server => ∃ host port, own["POD_IP"]? = some host ∧ own["PADDLE_PORT"]? = some port ∧
              own.Lists "PADDLE_PSERVERS_IP_PORT_LIST" process.rank (host ++ ":" ++ port)
          | .heterWorker => ∃ host port,
              own["POD_IP"]? = some host ∧ own["PADDLE_PORT"]? = some port ∧
              own.Lists "PADDLE_HETER_TRAINER_IP_PORT_LIST" process.rank
                (host ++ ":" ++ port)) := by
  obtain ⟨address, derived, -⟩ := topology_eq_ok_iff.mp built
  have numbered := derived.numbered
  have commaless := derived.commaless
  have counted (filled : cluster.processes .trainer ≠ []) :
      (fields (Endpoint.join (cluster.endpoints .trainer))).length = cluster.trainerCount := by
    rw [cluster.fields_endpoints numbered commaless filled, List.length_map, Cluster.trainerCount]
  constructor
  · intro kind pod here trainer placed
    have member : trainer ∈ cluster.processes .trainer := List.mem_flatMap.mpr ⟨pod, here, placed⟩
    have number := counted (List.ne_nil_of_mem member)
    refine ⟨⟨Endpoint.join (cluster.endpoints .trainer), ?_, ?_⟩, trainer.rank,
      trainer.endpoint.text, ?_, ?_, Endpoint.join (cluster.endpoints .trainer), ?_,
      numbered.stands commaless member⟩
    all_goals
      simp [Environment.ofTrainer, Environment.getElem?_ofList, List.lookup_cons, number]
  · intro kind pod here role process placed device count directory slot own answered
    have member : process ∈ cluster.processes role := List.mem_flatMap.mpr ⟨pod, here, placed⟩
    obtain ⟨servers, workers, heterWorkers, number⟩ :=
      (Environment.ServerJob.ofCluster cluster device count directory).common_getElem? role
    rw [← Environment.ServerJob.environment_common answered (by decide)]
      at servers workers heterWorkers number
    refine ⟨⟨_, workers, ?_⟩, ?_⟩
    · rw [number]
      exact congrArg _ (congrArg _ (counted (derived.trainers_ne_nil kind)).symm)
    · have stands := numbered.stands commaless member
      cases role with
      | trainer =>
        exact ⟨process.rank, Environment.ServerJob.environment_rank answered, _, workers, stands⟩
      | server =>
        obtain ⟨host, port⟩ := Environment.ServerJob.environment_listening (by decide) answered
        exact ⟨_, _, host, port, _, servers, stands⟩
      | heterWorker =>
        obtain ⟨host, port⟩ := Environment.ServerJob.environment_listening (by decide) answered
        exact ⟨_, _, host, port, _, heterWorkers, stands⟩

theorem topology_tells_twoNodes :
    (twoNodes.topology bareNode).result = .ok (twoNodesCluster, 1) ∧
      ∃ own, (Environment.ServerJob.ofCluster twoNodesCluster .gpu 1 "/rendezvous").environment
          .heterWorker ⟨[], ⟨"10.0.0.2", 6002⟩, 0⟩ 0 = .ok own ∧
        own.Counts "PADDLE_TRAINERS_NUM" "PADDLE_TRAINER_ENDPOINTS" ∧
          ∃ host port, own["POD_IP"]? = some host ∧ own["PADDLE_PORT"]? = some port ∧
            own.Lists "PADDLE_HETER_TRAINER_IP_PORT_LIST" 0 (host ++ ":" ++ port) := by
  refine ⟨topology_twoNodes, _, rfl, ?_⟩
  exact (topology_tells topology_twoNodes).2 rfl (Job.podAt twoNodesCluster 1)
    (List.mem_cons_of_mem _ List.mem_cons_self) .heterWorker _ List.mem_cons_self .gpu 1
    "/rendezvous" 0 _ rfl

end LaunchConfig

end Contract

end TrainingLauncher
