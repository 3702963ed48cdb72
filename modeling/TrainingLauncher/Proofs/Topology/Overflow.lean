/-
Counts that are too large. The operator may ask for any number of processes and a scheduler may
announce any number of ports; the numbers are added and multiplied before they are compared with
what there is. A sum or a product beyond 64 bits stops the launcher. Short of that, what does not
fit is refused, and whatever is accepted has the length that was asked for.

* `OnlyRefuses`: steps that stop for no other reason than a wrong description.
* `LaunchConfig.Overflows`: the sums and products that are too large.
* `LaunchConfig.topology_eq_overflow_iff`: these are what the launcher stops at.
* `LaunchConfig.counts_within_limits`: what happens to the counts.
-/

import TrainingLauncher.Proofs.Devices
import TrainingLauncher.Proofs.Topology.Resolution
import TrainingLauncher.Proofs.Topology.Scheduling

namespace TrainingLauncher

section Steps

variable {first : Except LaunchError α} {next : α → Except LaunchError β}

/-- The step stops for no other reason than a wrong description. -/
def OnlyRefuses (step : Except LaunchError α) : Prop :=
  ∀ error, step = .error error → error.IsConfig

theorem OnlyRefuses.ne_overflow (fine : OnlyRefuses first) : first ≠ .error .overflow := by
  intro stopped
  obtain ⟨_, same⟩ := fine _ stopped
  cases same

theorem onlyRefuses_ok (value : α) : OnlyRefuses (.ok value) := by
  intro error failed
  cases failed

theorem onlyRefuses_config (fault : ConfigFault) :
    OnlyRefuses (.error (.config fault) : Except LaunchError α) := by
  intro error failed
  exact ⟨fault, (Except.error.inj failed).symm⟩

theorem OnlyRefuses.bind (fine : OnlyRefuses first) (rest : ∀ value, OnlyRefuses (next value)) :
    OnlyRefuses (first >>= next) := by
  intro error failed
  obtain failed | ⟨value, -, failed⟩ := bind_eq_error_iff.mp failed
  · exact fine error failed
  · exact rest value error failed

/-- What only refuses cannot be where a sequence overflows. -/
theorem OnlyRefuses.bind_eq_overflow_iff (fine : OnlyRefuses first) :
    first >>= next = .error .overflow ↔
      ∃ value, first = .ok value ∧ next value = .error .overflow :=
  bind_eq_error_iff.trans (or_iff_right fine.ne_overflow)

theorem bind_eq_overflow_iff_of_rest (rest : ∀ value, OnlyRefuses (next value)) :
    first >>= next = .error .overflow ↔ first = .error .overflow := by
  refine bind_eq_error_iff.trans (or_iff_left ?_)
  rintro ⟨value, -, failed⟩
  exact (rest value).ne_overflow failed

theorem resolveNode_onlyRefuses (nodes : List String) (explicit : Option String)
    (resolver : Resolver) : OnlyRefuses (resolveNode nodes explicit resolver) := by
  intro error failed
  obtain ⟨fault, -, same⟩ := resolveNode_eq_error_iff.mp failed
  exact ⟨fault, same⟩

theorem Collective.assemble_onlyRefuses (nodes : List String) (localNode : String)
    (lists : List (List Endpoint)) (devices : List DeviceId) :
    OnlyRefuses (assemble nodes localNode lists devices) := by
  intro error failed
  obtain ⟨fault, -, same⟩ := refused_of_assemble failed
  exact ⟨fault, same⟩

theorem Scheduler.Placement.ofEnvironment_onlyRefuses (environment : Environment) :
    OnlyRefuses (ofEnvironment environment) := by
  show OnlyRefuses (if (nodesOf environment).isEmpty then _ else
    if (localNodeOf environment).isEmpty then _ else _)
  split
  · exact onlyRefuses_config _
  · split
    · exact onlyRefuses_config _
    · exact onlyRefuses_ok _

namespace Devices

theorem parseAll_onlyRefuses (requested : List String) : OnlyRefuses (parseAll requested) := by
  induction requested with
  | nil => exact onlyRefuses_ok _
  | cons device rest ih =>
    rw [parseAll]
    split
    · exact onlyRefuses_config _
    · exact ih.bind fun _ => onlyRefuses_ok _

theorem positions_onlyRefuses (visible requested : List String) :
    OnlyRefuses (positions visible requested) := by
  induction requested with
  | nil => exact onlyRefuses_ok _
  | cons device rest ih =>
    rw [positions]
    split
    · exact onlyRefuses_config _
    · exact ih.bind fun _ => onlyRefuses_ok _

/-- A selection of devices is refused or made. -/
theorem select_onlyRefuses (requested visible : Option String) (detected : Nat) :
    OnlyRefuses (select requested visible detected).result := by
  have named : OnlyRefuses (wanted requested visible detected) := by
    cases requested with
    | none => exact onlyRefuses_ok _
    | some requested =>
      rw [wanted]
      split
      · exact parseAll_onlyRefuses _
      · exact positions_onlyRefuses _ _
  rw [select_result]
  refine named.bind fun ids => ?_
  rw [inhabited]
  split
  · exact onlyRefuses_config _
  · exact onlyRefuses_ok _

end Devices

end Steps

/-- The ports of a collective job overflow when the end of their block does. Ports that the machine
finds free are too few for that. -/
theorem Collective.Description.ports_eq_overflow_iff {job : Description}
    {probes : List (Option Port)} : (job.ports probes).result = .error .overflow ↔
      Decimal.limit64 <
        (job.startPort.getD PortBlock.defaultStart).toNat + 0 + job.devices.length := by
  rw [ports]
  split
  · rename_i asks
    have unset : job.startPort = none := by
      have both := (Bool.and_eq_true _ _).mp asks
      exact Option.isNone_iff_eq_none.mp both.2
    rw [unset, Option.getD_none, PortBlock.allocate]
    cases free : PortBlock.findFree job.devices.length probes with
    | some found =>
      refine iff_of_false (fun absurd => by cases absurd) (Nat.not_lt.mpr ?_)
      have few := PortBlock.le_of_findFree free
      have bound := PortBlock.defaultStart.toNat_lt
      exact Nat.le_trans (Nat.add_le_add (Nat.le_of_lt bound) few) (by decide)
    | none =>
      show PortBlock.ports PortBlock.defaultStart 0 job.devices.length = _ ↔ _
      exact PortBlock.ports_eq_overflow_iff
  · exact PortBlock.ports_eq_overflow_iff

namespace ParameterServer

variable {job : Description} {spec : RoleSpec} {role : Role} {offset count : Nat}
  {startPort : Option Port} {endpoints : List Endpoint}

/-- A role that has a count has as many endpoints, wherever they come from. -/
theorem RoleSpec.length_of_resolve (counts : spec.Counts count)
    (resolved : spec.resolve role offset startPort = .ok endpoints) : endpoints.length = count := by
  cases RoleSpec.resolve_eq_ok_iff.mp resolved with
  | listed lists read agrees => exact agrees count counts
  | counted others =>
    cases counts.1.symm.trans others.1
    exact length_localBlock

theorem RoleSpec.resolve_eq_overflow (unlisted : spec.Unlisted) (counts : spec.Counts count)
    (large : Decimal.limit64 <
      (startPort.getD PortBlock.defaultStart).toNat + offset + count) :
    spec.resolve role offset startPort = .error .overflow := by
  rw [resolve, effectiveCount_eq_some_iff.mpr counts, effectiveList_eq_none_iff.mpr unlisted]
  exact bind_eq_error_iff.mpr (.inl (PortBlock.ports_eq_overflow_iff.mpr large))

/-- **The endpoints of a job overflow exactly when the end of a block does.** The end counts from
what the roles before have, so that lists of endpoints matter to it as well. -/
theorem Description.endpoints_eq_overflow_iff :
    job.endpoints = .error .overflow ↔ job.Overflows := by
  constructor
  · intro stopped
    refine (endpoints_error stopped).resolve_left ?_
    rintro ⟨_, same⟩
    cases same
  · rintro ⟨role, offset, spec, count, precede, described, unlisted, counts, large⟩
    have stopped : spec.resolve role offset job.startPort = .error .overflow :=
      RoleSpec.resolve_eq_overflow unlisted counts large
    -- the roles before this one have their endpoints, so that its turn comes
    cases precede with
    | servers =>
      cases described
      exact bind_eq_error_iff.mpr (.inl stopped)
    | workers first =>
      cases described
      have servers : job.servers.resolve .server 0 job.startPort = .ok _ :=
        RoleSpec.resolve_eq_ok_iff.mpr first
      exact bind_eq_error_iff.mpr (.inr ⟨_, servers, bind_eq_error_iff.mpr (.inl stopped)⟩)
    | heterWorkers first second =>
      have servers : job.servers.resolve .server 0 job.startPort = .ok _ :=
        RoleSpec.resolve_eq_ok_iff.mpr first
      have workers : job.workers.resolve .trainer _ job.startPort = .ok _ :=
        RoleSpec.resolve_eq_ok_iff.mpr second
      refine bind_eq_error_iff.mpr (.inr ⟨_, servers, ?_⟩)
      refine bind_eq_error_iff.mpr (.inr ⟨_, workers, ?_⟩)
      rw [show job.heterWorkers = some spec from described]
      exact bind_eq_error_iff.mpr (.inl stopped)

theorem Description.build_eq_overflow_iff {resolver : Resolver} :
    job.build resolver = .error .overflow ↔ job.Overflows := by
  refine (bind_eq_overflow_iff_of_rest fun endpoints => ?_).trans endpoints_eq_overflow_iff
  exact (resolveNode_onlyRefuses _ _ _).bind fun _ => onlyRefuses_ok _

end ParameterServer

theorem Collective.Description.build_eq_overflow_iff {job : Description} {resolver : Resolver}
    {probes : List (Option Port)} : (job.build resolver probes).result = .error .overflow ↔
      (∃ located, resolveNode job.nodes job.explicit resolver = .ok located) ∧
        Decimal.limit64 <
          (job.startPort.getD PortBlock.defaultStart).toNat + 0 + job.devices.length := by
  rw [LaunchConfig.description_result]
  refine (resolveNode_onlyRefuses _ _ _).bind_eq_overflow_iff.trans ?_
  rw [← exists_and_right]
  refine exists_congr fun located => and_congr_right fun _ => ?_
  refine (bind_eq_overflow_iff_of_rest fun ports => ?_).trans ports_eq_overflow_iff
  exact assemble_onlyRefuses _ _ _ _

namespace Scheduler.Placement

section Listed

variable {placement : Placement} {deviceCount : Nat} {list : String} {lists : List (List Endpoint)}

/-- **A list of endpoints that can be read overflows exactly when the length does that it is to
have.** -/
theorem listedEndpoints_eq_overflow_iff :
    placement.listedEndpoints deviceCount list = .error .overflow ↔
      (∃ endpoints, Endpoint.parseList list = .ok endpoints) ∧
        Decimal.limit64 < placement.portCount.getD deviceCount * placement.nodes.length := by
  have reading : OnlyRefuses (Endpoint.parseList list) := fun _ => Endpoint.parseList_error
  refine reading.bind_eq_overflow_iff.trans ?_
  rw [← exists_and_right]
  refine exists_congr fun endpoints => and_congr_right fun _ => ?_
  dsimp only
  split
  · -- without an endpoint for each node the list is refused before its length is worked out
    rename_i none
    rw [none, Nat.zero_mul]
    exact iff_of_false (fun absurd => by cases absurd) (Nat.not_lt_zero _)
  · refine (bind_eq_overflow_iff_of_rest fun expected => ?_).trans counted_eq_overflow_iff
    split
    · exact onlyRefuses_config _
    · exact onlyRefuses_ok _

/-- An accepted list has an equal share for every node. -/
theorem length_of_listedEndpoints
    (accepted : placement.listedEndpoints deviceCount list = .ok lists) :
    lists.length = placement.nodes.length ∧
      ∀ run ∈ lists, run.length = placement.portCount.getD deviceCount := by
  obtain ⟨endpoints, -, -, length, -, rfl⟩ := listedEndpoints_eq_ok_iff.mp accepted
  exact ⟨length_cut, fun run member => length_of_mem_cut length member⟩

end Listed

section Building

variable {environment : Environment} {placement : Placement} {devices : List DeviceId}
  {startPort : Option Port} {given : List String} {list : String}

theorem build_eq_overflow_iff_endpoints :
    (placement.build given devices startPort).result = .error .overflow ↔
      (placement.endpoints devices.length (startPort.getD defaultStart)).result =
        .error .overflow := by
  rw [LaunchConfig.placement_result]
  exact bind_eq_overflow_iff_of_rest fun lists => Collective.assemble_onlyRefuses _ _ _ _

theorem build_eq_overflow_iff_of_announced (placed : ofEnvironment environment = .ok placement)
    (announced : announcedList? environment = some list) :
    (placement.build given devices startPort).result = .error .overflow ↔
      (∃ endpoints, Endpoint.parseList list = .ok endpoints) ∧
        Decimal.limit64 < share environment devices.length * (nodesOf environment).length := by
  obtain ⟨-, -, rfl⟩ := ofEnvironment_eq_ok_iff.mp placed
  rw [build_eq_overflow_iff_endpoints, endpoints, show Placement.endpointList _ = _ from announced]
  exact listedEndpoints_eq_overflow_iff

theorem build_eq_overflow_iff_of_unannounced (placed : ofEnvironment environment = .ok placement)
    (unannounced : announcedList? environment = none) :
    (placement.build given devices startPort).result = .error .overflow ↔
      Decimal.limit64 <
        (blockStart environment devices.length startPort).toNat + 0 + devices.length := by
  have unlisted : placement.endpointList = none := by
    obtain ⟨-, -, rfl⟩ := ofEnvironment_eq_ok_iff.mp placed
    exact unannounced
  rw [build_eq_overflow_iff_endpoints, endpoints_result_of_unlisted unlisted,
    reservedStart?_getD placed]
  refine (bind_eq_overflow_iff_of_rest fun ports => ?_).trans PortBlock.ports_eq_overflow_iff
  exact onlyRefuses_ok _

end Building

end Scheduler.Placement

namespace LaunchConfig

open Scheduler.Placement (blockStart nodesOf ofEnvironment share)

/-- A sum or a product of the launcher is beyond what can be counted. The steps before it have not
refused the description. -/
inductive Overflows (config : LaunchConfig) (node : Node) : Prop
  /-- The end of the block of ports of a role. -/
  | roles (kind : config.kind = .parameterServer) (large : config.serverDescription.Overflows)
  /-- The length that the announced list of endpoints is to have. -/
  | announced {devices : List DeviceId} {placement : Scheduler.Placement} {list : String}
      {endpoints : List Endpoint} (kind : config.kind = .collective)
      (scheduled : isScheduled node = true) (selected : config.devices node = .ok devices)
      (placed : ofEnvironment node.environment = .ok placement)
      (announced : Scheduler.Placement.announcedList? node.environment = some list)
      (read : Endpoint.parseList list = .ok endpoints)
      (large : Decimal.limit64 <
        share node.environment devices.length * (nodesOf node.environment).length)
  /-- The end of the block of ports of a job that a scheduler places. -/
  | placed {devices : List DeviceId} {placement : Scheduler.Placement}
      (kind : config.kind = .collective) (scheduled : isScheduled node = true)
      (selected : config.devices node = .ok devices)
      (placed : ofEnvironment node.environment = .ok placement)
      (unannounced : Scheduler.Placement.announcedList? node.environment = none)
      (large : Decimal.limit64 <
        (blockStart node.environment devices.length config.startPort).toNat + 0 + devices.length)
  /-- The end of the block of ports of a job on the nodes that the operator names. -/
  | named {devices : List DeviceId} {located : String × Nat} (kind : config.kind = .collective)
      (unscheduled : isScheduled node = false) (selected : config.devices node = .ok devices)
      (found : resolveNode config.nodes config.nodeIp node.resolver = .ok located)
      (large : Decimal.limit64 <
        (config.startPort.getD PortBlock.defaultStart).toNat + 0 + devices.length)

variable {config : LaunchConfig} {node : Node}

/-- A collective job overflows behind the choice of the devices. -/
theorem topology_eq_overflow_iff_of_collective (kind : config.kind = .collective) :
    (config.topology node).result = .error .overflow ↔
      ∃ devices, config.devices node = .ok devices ∧
        (if isScheduled node then
          ofEnvironment node.environment >>= fun placement =>
            (placement.build config.nodes devices config.startPort).result
        else ((config.collectiveDescription node devices).build node.resolver node.probes).result) =
          .error .overflow := by
  rw [topology_result, kind]
  dsimp only
  rw [collectiveTopology_result]
  exact (Devices.select_onlyRefuses _ _ _).bind_eq_overflow_iff

/-- **The launcher stops at a sum or a product exactly when it is beyond what can be counted.** -/
theorem topology_eq_overflow_iff :
    (config.topology node).result = .error .overflow ↔ config.Overflows node := by
  constructor
  · intro stopped
    cases kind : config.kind with
    | parameterServer =>
      rw [topology_result, kind] at stopped
      exact .roles kind (ParameterServer.Description.build_eq_overflow_iff.mp stopped)
    | collective =>
      obtain ⟨devices, selected, stopped⟩ :=
        (topology_eq_overflow_iff_of_collective kind).mp stopped
      split at stopped
      · rename_i scheduled
        have placing := Scheduler.Placement.ofEnvironment_onlyRefuses node.environment
        obtain ⟨placement, placed, stopped⟩ := placing.bind_eq_overflow_iff.mp stopped
        cases announced : Scheduler.Placement.announcedList? node.environment with
        | some list =>
          obtain ⟨⟨endpoints, read⟩, large⟩ :=
            (Scheduler.Placement.build_eq_overflow_iff_of_announced placed announced).mp stopped
          exact .announced kind scheduled selected placed announced read large
        | none =>
          have large :=
            (Scheduler.Placement.build_eq_overflow_iff_of_unannounced placed announced).mp stopped
          exact .placed kind scheduled selected placed announced large
      · rename_i unscheduled
        obtain ⟨⟨located, found⟩, large⟩ :=
          Collective.Description.build_eq_overflow_iff.mp stopped
        exact .named kind (Bool.eq_false_iff.mpr unscheduled) selected found large
  · intro overflows
    cases overflows with
    | roles kind large =>
      rw [topology_result, kind]
      exact ParameterServer.Description.build_eq_overflow_iff.mpr large
    | announced kind scheduled selected placed announced read large =>
      refine (topology_eq_overflow_iff_of_collective kind).mpr ⟨_, selected, ?_⟩
      rw [if_pos scheduled]
      refine bind_eq_error_iff.mpr (.inr ⟨_, placed, ?_⟩)
      exact (Scheduler.Placement.build_eq_overflow_iff_of_announced placed announced).mpr
        ⟨⟨_, read⟩, large⟩
    | placed kind scheduled selected placed unannounced large =>
      refine (topology_eq_overflow_iff_of_collective kind).mpr ⟨_, selected, ?_⟩
      rw [if_pos scheduled]
      refine bind_eq_error_iff.mpr (.inr ⟨_, placed, ?_⟩)
      exact (Scheduler.Placement.build_eq_overflow_iff_of_unannounced placed unannounced).mpr large
    | named kind unscheduled selected found large =>
      refine (topology_eq_overflow_iff_of_collective kind).mpr ⟨_, selected, ?_⟩
      rw [if_neg (Bool.eq_false_iff.mp unscheduled)]
      exact Collective.Description.build_eq_overflow_iff.mpr ⟨⟨_, found⟩, large⟩

/-- **What happens to counts of any size.** There is a block of ports exactly when it ends within
the numbers that ports have, and it has the numbers that were asked for; a longer one is refused,
unless its end is beyond what can be counted. A list of endpoints that can be read is compared with
the length that it is to have, unless this is beyond what can be counted; an accepted list has an
equal share for every node. A role that has a count gets no other number of endpoints. The launcher
stops at a sum or a product exactly when it is beyond what can be counted. -/
theorem counts_within_limits (start : Port) (offset count : Nat) (placement : Scheduler.Placement)
    (deviceCount : Nat) (list : String) (spec : ParameterServer.RoleSpec) (role : Role)
    (startPort : Option Port) (config : LaunchConfig) (node : Node) :
    (∀ found, PortBlock.ports start offset count = .ok found ↔
      start.toNat + offset + count ≤ 65536 ∧
        found.map UInt16.toNat = List.range' (start.toNat + offset) count) ∧
    (∀ error, PortBlock.ports start offset count = .error error ↔
      65536 < start.toNat + offset + count ∧
        error = if Decimal.limit64 < start.toNat + offset + count then .overflow
          else .config (.portBlock (start.toNat + offset) (start.toNat + offset + count)
            start.toNat)) ∧
    (placement.listedEndpoints deviceCount list = .error .overflow ↔
      (∃ endpoints, Endpoint.parseList list = .ok endpoints) ∧
        Decimal.limit64 < placement.portCount.getD deviceCount * placement.nodes.length) ∧
    (∀ lists, placement.listedEndpoints deviceCount list = .ok lists →
      lists.length = placement.nodes.length ∧
        ∀ run ∈ lists, run.length = placement.portCount.getD deviceCount) ∧
    (∀ endpoints, spec.Counts count → spec.resolve role offset startPort = .ok endpoints →
      endpoints.length = count) ∧
    ((config.topology node).result = .error .overflow ↔ config.Overflows node) := by
  refine ⟨fun found => ?_, fun error => PortBlock.ports_eq_error_iff,
    Scheduler.Placement.listedEndpoints_eq_overflow_iff,
    fun lists => Scheduler.Placement.length_of_listedEndpoints,
    fun endpoints => ParameterServer.RoleSpec.length_of_resolve, topology_eq_overflow_iff⟩
  refine PortBlock.ports_eq_ok_iff.trans (and_congr_right fun within => ?_)
  exact PortBlock.eq_block_iff within

/-- Two nodes with a port each. -/
def portEach : Scheduler.Placement where
  nodes := ["10.0.0.1", "10.0.0.2"]
  localNode := "10.0.0.1"
  firstPort := none
  portCount := some 1
  endpointList := none

theorem counts_within_limits_lastPorts :
    PortBlock.ports 65530 2 4 = .ok [65532, 65533, 65534, 65535] ∧
      (∃ lists, portEach.listedEndpoints 1 "10.0.0.1:1,10.0.0.2:2" = .ok lists ∧
        lists.length = 2) ∧
      ∃ endpoints, (⟨some 4, none⟩ : ParameterServer.RoleSpec).resolve .server 2 (some 65530) =
        .ok endpoints ∧ endpoints.length = 4 := by
  obtain ⟨block, -, -, lists, counted, -⟩ := counts_within_limits 65530 2 4 portEach 1
    "10.0.0.1:1,10.0.0.2:2" ⟨some 4, none⟩ .server (some 65530) twoNodes bareNode
  have accepted : portEach.listedEndpoints 1 "10.0.0.1:1,10.0.0.2:2" =
      .ok [[⟨"10.0.0.1", 1⟩], [⟨"10.0.0.2", 2⟩]] := by decide +kernel
  have resolved : (⟨some 4, none⟩ : ParameterServer.RoleSpec).resolve .server 2 (some 65530) =
      .ok (ParameterServer.localBlock 65532 4) := by decide +kernel
  refine ⟨(block _).mpr (by decide), ⟨_, accepted, (lists _ accepted).1⟩, _, resolved, ?_⟩
  exact counted _ ⟨rfl, by decide⟩ resolved

/-- As many servers as can be counted. -/
def endlessServers : LaunchConfig :=
  { LaunchConfig.ofScript "train.py" with
    servers := ⟨some 18446744073709551615, none⟩
    workers := ⟨some 1, none⟩ }

/-- A block that does not fit is not refused when its end is beyond what can be counted. -/
theorem counts_overflow_endlessServers :
    65536 < (6070 : Port).toNat + 0 + 18446744073709551615 ∧
      PortBlock.ports 6070 0 18446744073709551615 = .error .overflow ∧
      (∀ fault, PortBlock.ports 6070 0 18446744073709551615 ≠ .error (.config fault)) ∧
      (endlessServers.topology bareNode).result = .error .overflow := by
  have stopped : PortBlock.ports 6070 0 18446744073709551615 = .error .overflow := by
    decide +kernel
  refine ⟨by decide +kernel, stopped, fun fault refused => ?_, by decide +kernel⟩
  cases stopped.symm.trans refused

end LaunchConfig

end TrainingLauncher
