/-
The clusters of the jobs that a scheduler places. If the scheduler lists the endpoints, the list has
to hold equally many for every node, and the trainers of a node take the first ones of its share;
otherwise all nodes use a block of ports, which the scheduler may have reserved. The nodes that the
operator names do not matter.

* `Scheduler.Placement.announcedList?`, `Scheduler.Placement.share`,
  `Scheduler.Placement.blockStart`: what an environment says about the endpoints.
* `Scheduler.Placement.listedEndpoints_eq_ok_iff`, `Scheduler.Placement.endpoints_of_unlisted`:
  when there are endpoints, and which.
* `Scheduler.Placement.build_staffs`: when there is a cluster, and where its trainers listen.
-/

import TrainingLauncher.Proofs.Topology.Staffing

namespace TrainingLauncher.Scheduler.Placement

open Text

section Reading

variable (environment : Environment) (deviceCount : Nat)

/-- The list of endpoints that the scheduler announces; a blank one counts as none. -/
def announcedList? : Option String :=
  environment["DISTRIBUTED_TRAINER_ENDPOINTS"]?.filter fun list => !(trim list).isEmpty

/-- How many endpoints of that list are meant for each node: as many as the scheduler says, or one
for each device. -/
def share : Nat := (numberOf? Decimal.limit64 environment "TRAINER_PORTS_NUM").getD deviceCount

/-- The first port of the nodes when no endpoints are announced. It is the one that the scheduler
has reserved on several nodes if there are ports enough for the devices. -/
def blockStart (startPort : Option Port) : Port :=
  match numberOf? Decimal.limit16 environment "PADDLE_PORT",
    numberOf? Decimal.limit64 environment "TRAINER_PORTS_NUM" with
  | some port, some size =>
    if 1 < (nodesOf environment).length ∧ deviceCount ≤ size then UInt16.ofNat port
    else startPort.getD 6170
  | _, _ => startPort.getD 6170

end Reading

section Listed

variable {placement : Placement} {deviceCount size count : Nat} {list : String}
  {endpoints run : List Endpoint} {lists : List (List Endpoint)}

theorem length_cut : (cut size count endpoints).length = count := by
  induction count generalizing endpoints with
  | zero => rfl
  | succ count ih => rw [cut, List.length_cons, ih]

/-- The runs of a list that is cut up evenly are full. -/
theorem length_of_mem_cut (length : endpoints.length = size * count)
    (member : run ∈ cut size count endpoints) : run.length = size := by
  induction count generalizing endpoints with
  | zero => cases member
  | succ count ih =>
    rw [Nat.mul_succ] at length
    rcases List.mem_cons.mp member with rfl | member
    · rw [List.length_take, length, Nat.min_eq_left (Nat.le_add_left _ _)]
    · refine ih ?_ member
      rw [List.length_drop, length, Nat.add_sub_cancel]

/-- An entry of a run is the one that far behind the entries of the runs before. -/
theorem getElem?_of_listed_cut {place slot : Nat} {endpoint : Endpoint}
    (listed : Collective.Listed (cut size count endpoints) place slot endpoint) :
    endpoints[place * size + slot]? = some endpoint := by
  obtain ⟨run, here, there⟩ := listed
  rw [getElem?_cut, Option.ite_none_right_eq_some] at here
  cases here.2
  obtain ⟨bound, -⟩ := List.getElem?_eq_some_iff.mp there
  rw [List.getElem?_take_of_lt (Nat.lt_of_lt_of_le bound (List.length_take_le _ _)),
    List.getElem?_drop] at there
  exact there

/-- **A list of endpoints is accepted** when it holds equally many for every node, and some. -/
theorem listedEndpoints_eq_ok_iff : placement.listedEndpoints deviceCount list = .ok lists ↔
    ∃ endpoints, Endpoint.parseList list = .ok endpoints ∧
      0 < placement.portCount.getD deviceCount ∧
      endpoints.length = placement.portCount.getD deviceCount * placement.nodes.length ∧
      endpoints.length ≤ Decimal.limit64 ∧
      lists = cut (placement.portCount.getD deviceCount) placement.nodes.length endpoints := by
  constructor
  · intro resolved
    obtain ⟨endpoints, read, resolved⟩ := bind_eq_ok_iff.mp resolved
    dsimp only at resolved
    split at resolved
    · cases resolved
    · rename_i some
      obtain ⟨expected, count, resolved⟩ := bind_eq_ok_iff.mp resolved
      obtain ⟨small, rfl⟩ := counted_eq_ok_iff.mp count
      split at resolved
      · cases resolved
      · rename_i length
        have length := not_not.mp length
        cases resolved
        exact ⟨endpoints, read, Nat.pos_of_ne_zero some, length, length ▸ small, rfl⟩
  · rintro ⟨endpoints, read, some, length, small, rfl⟩
    refine bind_eq_ok_iff.mpr ⟨endpoints, read, ?_⟩
    dsimp only
    rw [if_neg (Nat.ne_of_gt some)]
    refine bind_eq_ok_iff.mpr ⟨_, counted_of_le (length ▸ small), ?_⟩
    rw [if_neg (not_not_intro length)]
    rfl

end Listed

section Unlisted

variable {environment : Environment} {placement : Placement} {deviceCount : Nat}
  {lists : List (List Endpoint)} {startPort : Option Port} {start : Port}

theorem endpoints_result_of_unlisted (unlisted : placement.endpointList = none) :
    (placement.endpoints deviceCount start).result =
      PortBlock.ports ((placement.reservedStart? deviceCount start).getD start) 0 deviceCount >>=
        fun ports => .ok (Collective.sites placement.nodes ports) := by
  rw [endpoints, unlisted]
  dsimp only
  split
  · rw [Noted.result_bind, Noted.result_note]
    exact Noted.result_bind _ _
  · exact Noted.result_bind _ _

/-- **Without a list, all nodes use one block of ports.** -/
theorem endpoints_of_unlisted (unlisted : placement.endpointList = none) :
    (placement.endpoints deviceCount start).result = .ok lists ↔
      ((placement.reservedStart? deviceCount start).getD start).toNat + 0 + deviceCount ≤
          PortBlock.portSpace ∧
        lists = Collective.sites placement.nodes (PortBlock.block
          ((placement.reservedStart? deviceCount start).getD start) 0 deviceCount) := by
  rw [endpoints_result_of_unlisted unlisted]
  constructor
  · intro resolved
    obtain ⟨ports, found, same⟩ := bind_eq_ok_iff.mp resolved
    obtain ⟨within, rfl⟩ := PortBlock.ports_eq_ok_iff.mp found
    exact ⟨within, (Except.ok.inj same).symm⟩
  · rintro ⟨within, rfl⟩
    exact bind_eq_ok_iff.mpr ⟨_, PortBlock.ports_eq_ok_iff.mpr ⟨within, rfl⟩, rfl⟩

/-- A reserved block that starts where the job would start by itself makes no difference. -/
theorem reservedStart?_getD (placed : ofEnvironment environment = .ok placement) :
    (placement.reservedStart? deviceCount (startPort.getD defaultStart)).getD
      (startPort.getD defaultStart) = blockStart environment deviceCount startPort := by
  obtain ⟨-, -, rfl⟩ := ofEnvironment_eq_ok_iff.mp placed
  rw [reservedStart?, blockStart]
  dsimp only
  cases numberOf? Decimal.limit16 environment "PADDLE_PORT" with
  | none => simp [defaultStart]
  | some port =>
    cases numberOf? Decimal.limit64 environment "TRAINER_PORTS_NUM" with
    | none => simp [defaultStart]
    | some size =>
      by_cases several : 1 < (nodesOf environment).length
      · by_cases enough : deviceCount ≤ size
        · by_cases same : UInt16.ofNat port = startPort.getD defaultStart
          · simp [several, enough, same]
          · simp [several, enough, same]
        · simp [several, enough, defaultStart]
      · simp [several, defaultStart]

end Unlisted

section Building

variable {environment : Environment} {placement : Placement} {devices : List DeviceId}
  {startPort : Option Port} {given : List String} {list : String} {cluster : Cluster} {index : Nat}

/-- The runs of an announced list are long enough when there are as many endpoints for a node as
devices. -/
theorem fits_cut {nodes : List String} {size : Nat} {endpoints : List Endpoint}
    (inhabited : nodes ≠ []) (length : endpoints.length = size * nodes.length) :
    Collective.Fits devices nodes (cut size nodes.length endpoints) ↔ devices.length ≤ size := by
  constructor
  · intro fits
    obtain ⟨run, member⟩ := List.exists_mem_of_length_pos
      (fits.lengths ▸ List.length_pos_iff.mpr inhabited)
    exact length_of_mem_cut length member ▸ fits.enough run member
  · intro enough
    exact ⟨length_cut, fun run member => (length_of_mem_cut length member).symm ▸ enough⟩

/-- **The cluster of an announced list of endpoints.** -/
theorem build_of_announced (placed : ofEnvironment environment = .ok placement)
    (announced : announcedList? environment = some list) :
    (placement.build given devices startPort).result = .ok (cluster, index) ↔
      ∃ endpoints, Endpoint.parseList list = .ok endpoints ∧
        0 < share environment devices.length ∧
        endpoints.length = share environment devices.length * (nodesOf environment).length ∧
        endpoints.length ≤ Decimal.limit64 ∧
        devices.length ≤ share environment devices.length ∧
        cluster = LaunchConfig.laidByList devices (nodesOf environment)
          (share environment devices.length) endpoints ∧
        (nodesOf environment).idxOf? (localNodeOf environment) = some index := by
  obtain ⟨named, -, rfl⟩ := ofEnvironment_eq_ok_iff.mp placed
  have inhabited : nodesOf environment ≠ [] := List.isEmpty_eq_false_iff.mp named
  rw [LaunchConfig.placement_result, endpoints, show Placement.endpointList _ = _ from announced]
  constructor
  · intro built
    obtain ⟨lists, resolved, built⟩ := bind_eq_ok_iff.mp built
    obtain ⟨fits, rfl, found⟩ := Collective.assemble_eq_ok_iff.mp built
    obtain ⟨endpoints, read, some, length, small, rfl⟩ := listedEndpoints_eq_ok_iff.mp resolved
    exact ⟨endpoints, read, some, length, small, (fits_cut inhabited length).mp fits, rfl, found⟩
  · rintro ⟨endpoints, read, some, length, small, enough, rfl, found⟩
    refine bind_eq_ok_iff.mpr
      ⟨_, listedEndpoints_eq_ok_iff.mpr ⟨endpoints, read, some, length, small, rfl⟩, ?_⟩
    exact Collective.assemble_eq_ok_iff.mpr ⟨(fits_cut inhabited length).mpr enough, rfl, found⟩

/-- **The cluster on a block of ports.** -/
theorem build_of_unannounced (placed : ofEnvironment environment = .ok placement)
    (unannounced : announcedList? environment = none) :
    (placement.build given devices startPort).result = .ok (cluster, index) ↔
      (blockStart environment devices.length startPort).toNat + 0 + devices.length ≤
          PortBlock.portSpace ∧
        cluster = Collective.laid devices (nodesOf environment)
          (Collective.sites (nodesOf environment) (PortBlock.block
            (blockStart environment devices.length startPort) 0 devices.length)) ∧
        (nodesOf environment).idxOf? (localNodeOf environment) = some index := by
  rw [LaunchConfig.placement_result, ← reservedStart?_getD placed]
  obtain ⟨-, -, rfl⟩ := ofEnvironment_eq_ok_iff.mp placed
  constructor
  · intro built
    obtain ⟨lists, resolved, built⟩ := bind_eq_ok_iff.mp built
    obtain ⟨-, rfl, found⟩ := Collective.assemble_eq_ok_iff.mp built
    obtain ⟨within, rfl⟩ := (endpoints_of_unlisted unannounced).mp resolved
    exact ⟨within, rfl, found⟩
  · rintro ⟨within, rfl, found⟩
    refine bind_eq_ok_iff.mpr ⟨_, (endpoints_of_unlisted unannounced).mpr ⟨within, rfl⟩, ?_⟩
    exact Collective.assemble_eq_ok_iff.mpr
      ⟨Collective.fits_sites PortBlock.length_block, rfl, found⟩

end Building

/-- **The cluster of a job that a scheduler places.** The nodes that the operator names do not
matter. With an announced list of endpoints there is a cluster exactly when the list can be read, is
no longer than can be counted, holds the same number of endpoints for every node, at least one and
one for each device, and the local node is one of the nodes; the trainers of a node then take the
first endpoints of its share. Without a list there is a cluster exactly when the block of ports for
the devices ends within the numbers that ports have and the local node is one of the nodes; the
trainers of every node then take the ports of that block. -/
theorem build_staffs {environment : Environment} {placement : Placement}
    (placed : ofEnvironment environment = .ok placement) (devices : List DeviceId)
    (startPort : Option Port) :
    (∀ given other, (placement.build given devices startPort).result =
      (placement.build other devices startPort).result) ∧
    (∀ list, announcedList? environment = some list → ∀ given,
      ((∃ cluster index,
          (placement.build given devices startPort).result = .ok (cluster, index)) ↔
        ∃ endpoints, Endpoint.parseList list = .ok endpoints ∧
          0 < share environment devices.length ∧
          endpoints.length = share environment devices.length * (nodesOf environment).length ∧
          endpoints.length ≤ Decimal.limit64 ∧
          devices.length ≤ share environment devices.length ∧
          localNodeOf environment ∈ nodesOf environment) ∧
      ∀ cluster index, (placement.build given devices startPort).result = .ok (cluster, index) →
        (nodesOf environment).idxOf? (localNodeOf environment) = some index ∧
        ∃ endpoints, Endpoint.parseList list = .ok endpoints ∧
          cluster.Staffed (nodesOf environment) devices fun place slot endpoint =>
            endpoints[place * share environment devices.length + slot]? = some endpoint) ∧
    (announcedList? environment = none → ∀ given,
      ((∃ cluster index,
          (placement.build given devices startPort).result = .ok (cluster, index)) ↔
        (blockStart environment devices.length startPort).toNat + devices.length ≤ 65536 ∧
          localNodeOf environment ∈ nodesOf environment) ∧
      ∀ cluster index, (placement.build given devices startPort).result = .ok (cluster, index) →
        (nodesOf environment).idxOf? (localNodeOf environment) = some index ∧
        cluster.Staffed (nodesOf environment) devices fun place slot endpoint =>
          (nodesOf environment)[place]? = some endpoint.host ∧
            endpoint.port.toNat =
              (blockStart environment devices.length startPort).toNat + slot) := by
  refine ⟨fun given other => ?_, fun list announced given => ⟨?_, ?_⟩,
    fun unannounced given => ⟨?_, ?_⟩⟩
  · rw [LaunchConfig.placement_result, LaunchConfig.placement_result]
  · constructor
    · rintro ⟨cluster, index, built⟩
      obtain ⟨endpoints, read, some, length, small, enough, -, found⟩ :=
        (build_of_announced placed announced).mp built
      exact ⟨endpoints, read, some, length, small, enough, mem_of_idxOf? found⟩
    · rintro ⟨endpoints, read, some, length, small, enough, listed⟩
      exact ⟨_, _, (build_of_announced placed announced).mpr
        ⟨endpoints, read, some, length, small, enough, rfl, idxOf?_of_mem listed⟩⟩
  · intro cluster index built
    obtain ⟨endpoints, read, -, length, -, enough, rfl, found⟩ :=
      (build_of_announced placed announced).mp built
    have inhabited := List.ne_nil_of_mem (mem_of_idxOf? found)
    have staffed := Collective.laid_staffed ((fits_cut inhabited length).mpr enough)
    refine ⟨found, endpoints, read, staffed.imp fun place _ slot _ endpoint listed => ?_⟩
    exact getElem?_of_listed_cut listed
  · constructor
    · rintro ⟨cluster, index, built⟩
      obtain ⟨within, -, found⟩ := (build_of_unannounced placed unannounced).mp built
      exact ⟨within, mem_of_idxOf? found⟩
    · rintro ⟨within, listed⟩
      exact ⟨_, _, (build_of_unannounced placed unannounced).mpr
        ⟨within, rfl, idxOf?_of_mem listed⟩⟩
  · intro cluster index built
    obtain ⟨within, rfl, found⟩ := (build_of_unannounced placed unannounced).mp built
    exact ⟨found, Collective.laid_block_staffed within⟩

/-- A scheduler that announces two endpoints for each of two nodes, of which ours is the second. -/
def sharedEnvironment : Environment := .ofList [
  ("PADDLE_TRAINERS", "10.0.0.1,10.0.0.2"),
  ("POD_IP", " 10.0.0.2"),
  ("TRAINER_PORTS_NUM", "2"),
  ("DISTRIBUTED_TRAINER_ENDPOINTS", "10.0.0.1:1,10.0.0.1:2,10.0.0.2:3,10.0.0.2:4")]

theorem build_staffs_sharedEnvironment :
    ∃ placement, ofEnvironment sharedEnvironment = .ok placement ∧
      ∃ cluster index, (placement.build [] [7] none).result = .ok (cluster, index) ∧
        cluster.Staffed ["10.0.0.1", "10.0.0.2"] [7] fun place slot endpoint =>
          [(⟨"10.0.0.1", 1⟩ : Endpoint), ⟨"10.0.0.1", 2⟩, ⟨"10.0.0.2", 3⟩,
            ⟨"10.0.0.2", 4⟩][place * 2 + slot]? = some endpoint := by
  have placed : ofEnvironment sharedEnvironment = .ok ⟨["10.0.0.1", "10.0.0.2"], "10.0.0.2", none,
      some 2, some "10.0.0.1:1,10.0.0.1:2,10.0.0.2:3,10.0.0.2:4"⟩ := by
    decide +kernel
  have announced : announcedList? sharedEnvironment =
      some "10.0.0.1:1,10.0.0.1:2,10.0.0.2:3,10.0.0.2:4" := by
    decide +kernel
  have nodes : nodesOf sharedEnvironment = ["10.0.0.1", "10.0.0.2"] := by decide +kernel
  have localNode : localNodeOf sharedEnvironment = "10.0.0.2" := by decide +kernel
  have size : share sharedEnvironment 1 = 2 := by decide +kernel
  have read : Endpoint.parseList "10.0.0.1:1,10.0.0.1:2,10.0.0.2:3,10.0.0.2:4" =
      .ok [⟨"10.0.0.1", 1⟩, ⟨"10.0.0.1", 2⟩, ⟨"10.0.0.2", 3⟩, ⟨"10.0.0.2", 4⟩] := by
    decide +kernel
  obtain ⟨exact, shape⟩ := (build_staffs placed [7] none).2.1 _ announced []
  rw [List.length_singleton, nodes, localNode, size] at exact
  obtain ⟨cluster, index, built⟩ := exact.mpr ⟨_, read, by decide⟩
  obtain ⟨-, endpoints, likewise, staffed⟩ := shape cluster index built
  cases read.symm.trans likewise
  rw [List.length_singleton, nodes, size] at staffed
  exact ⟨_, placed, cluster, index, built, staffed⟩

end TrainingLauncher.Scheduler.Placement
