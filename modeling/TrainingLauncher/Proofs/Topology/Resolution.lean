/-
Where the processes of a parameter-server job listen. Every role that has no list takes its ports
after as many as the roles before it have endpoints, whether these are listed or not.

* `Description.Lays`: the endpoints that a description gives all roles.
* `Description.endpoints_eq_ok_iff`: these are the endpoints of the job.
* `Description.endpoints_lays`: when there are endpoints, which they are, and that the
  description is to blame when there are none.
-/

import TrainingLauncher.Proofs.Topology.Distinctness

namespace TrainingLauncher.ParameterServer

open Text

variable {job : Description} {found : RoleEndpoints}

/-- The port that the ports of a job start from. -/
def Description.start (job : Description) : Nat :=
  (job.startPort.getD PortBlock.defaultStart).toNat

/-- The endpoints that a description gives all roles. Each role counts those of the roles before it,
and a role that the job does not have gets none. -/
def Description.Lays (job : Description) (found : RoleEndpoints) : Prop :=
  ∀ role, match job.spec? role with
    | some spec => spec.Yields (job.start + found.offset role) (found.ofRole role)
    | none => found.ofRole role = []

/-- **The endpoints of a job are those that its description gives the roles.** -/
theorem Description.endpoints_eq_ok_iff : job.endpoints = .ok found ↔ job.Lays found := by
  constructor
  · intro resolved role
    have given := Description.endpoints_ofRole resolved role
    split
    · rename_i spec described
      rw [described] at given
      exact RoleSpec.resolve_eq_ok_iff.mp given
    · rename_i described
      rw [described] at given
      exact given
  · intro lays
    have servers : job.servers.resolve .server 0 job.startPort = .ok found.servers :=
      RoleSpec.resolve_eq_ok_iff.mpr (lays .server)
    have workers : job.workers.resolve .trainer found.servers.length job.startPort =
        .ok found.workers := RoleSpec.resolve_eq_ok_iff.mpr (lays .trainer)
    refine bind_eq_ok_iff.mpr ⟨_, servers, bind_eq_ok_iff.mpr ⟨_, workers, ?_⟩⟩
    have last := lays .heterWorker
    cases described : job.heterWorkers with
    | none =>
      rw [Description.spec?, described] at last
      obtain ⟨servers, workers, heterWorkers⟩ := found
      obtain rfl : heterWorkers = [] := last
      rfl
    | some spec =>
      rw [Description.spec?, described] at last
      exact bind_eq_ok_iff.mpr ⟨_, RoleSpec.resolve_eq_ok_iff.mpr last, rfl⟩

/-- The endpoints of a role without a list are a local block, if the job has the role. -/
theorem Description.Lays.block (lays : job.Lays found) {role : Role}
    (unlisted : ∀ spec, job.spec? role = some spec → spec.Unlisted) :
    (∀ endpoint ∈ found.ofRole role, endpoint.host = "127.0.0.1") ∧
      (found.ofRole role).map (·.port.toNat) =
        List.range' (job.start + found.offset role) (found.ofRole role).length := by
  have given := lays role
  cases described : job.spec? role with
  | none =>
    rw [described] at given
    rw [given]
    exact ⟨List.forall_mem_nil _, rfl⟩
  | some spec =>
    rw [described] at given
    exact given.block (unlisted spec described)

/-- **When no role has a list, the ports of all roles together are consecutive.** -/
theorem Description.Lays.ports (lays : job.Lays found)
    (unlisted : ∀ role spec, job.spec? role = some spec → spec.Unlisted) :
    (∀ endpoint ∈ found.all, endpoint.host = "127.0.0.1") ∧
      found.all.map (·.port.toNat) = List.range' job.start found.all.length := by
  constructor
  · intro endpoint member
    obtain ⟨role, member⟩ := RoleEndpoints.mem_all.mp member
    exact (lays.block (unlisted role)).1 endpoint member
  · have servers : found.servers.map (·.port.toNat) =
        List.range' job.start found.servers.length := (lays.block (unlisted .server)).2
    have workers : found.workers.map (·.port.toNat) =
        List.range' (job.start + found.servers.length) found.workers.length :=
      (lays.block (unlisted .trainer)).2
    have heterWorkers : found.heterWorkers.map (·.port.toNat) =
        List.range' (job.start + (found.servers.length + found.workers.length))
          found.heterWorkers.length := (lays.block (unlisted .heterWorker)).2
    rw [RoleEndpoints.all, List.map_append, List.map_append, servers, workers, heterWorkers,
      List.range'_append_1, List.range'_append_1, List.length_append, List.length_append]

/-- How many endpoints the roles before a role can have. -/
inductive Description.Precede (job : Description) : Role → Nat → Prop
  | servers : Precede job .server 0
  | workers {servers : List Endpoint} (first : job.servers.Yields job.start servers) :
      Precede job .trainer servers.length
  | heterWorkers {servers workers : List Endpoint} (first : job.servers.Yields job.start servers)
      (second : job.workers.Yields (job.start + servers.length) workers) :
      Precede job .heterWorker (servers.length + workers.length)

/-- The end of a block of ports is beyond what can be counted. -/
def Description.Overflows (job : Description) : Prop :=
  ∃ role offset spec count, job.Precede role offset ∧ job.spec? role = some spec ∧
    spec.Unlisted ∧ spec.Counts count ∧ Decimal.limit64 < job.start + offset + count

/-- Without endpoints the description is to blame, unless a sum overflows. -/
theorem Description.endpoints_error {error : LaunchError} (failed : job.endpoints = .error error) :
    error.IsConfig ∨ job.Overflows := by
  have blame {role : Role} {offset : Nat} {spec : RoleSpec} (precede : job.Precede role offset)
      (described : job.spec? role = some spec)
      (failed : spec.resolve role offset job.startPort = .error error) :
      error.IsConfig ∨ job.Overflows :=
    (RoleSpec.resolve_error failed).imp_right fun ⟨unlisted, count, counts, large⟩ =>
      ⟨role, offset, spec, count, precede, described, unlisted, counts, large⟩
  obtain none | ⟨servers, first, failed⟩ := bind_eq_error_iff.mp failed
  · exact blame .servers rfl none
  have first := RoleSpec.resolve_eq_ok_iff.mp first
  obtain none | ⟨workers, second, failed⟩ := bind_eq_error_iff.mp failed
  · exact blame (.workers first) rfl none
  have second := RoleSpec.resolve_eq_ok_iff.mp second
  cases described : job.heterWorkers with
  | none =>
    rw [described] at failed
    cases failed
  | some spec =>
    rw [described] at failed
    obtain none | ⟨heterWorkers, -, absurd⟩ := bind_eq_error_iff.mp failed
    · exact blame (.heterWorkers first second) described none
    · cases absurd

/-- **The endpoints of a parameter-server job.** There are endpoints exactly when the description
gives every role some, and they are these. Then no role of the job is empty; and when no role has a
list, all of them are local and their ports follow each other from the start port on. When there are
none, and no sum overflows, the description is to blame. -/
theorem Description.endpoints_lays (job : Description) :
    (∀ found, job.endpoints = .ok found ↔ job.Lays found) ∧
    (∀ found, job.endpoints = .ok found →
      (∀ role, (job.spec? role).isSome → found.ofRole role ≠ []) ∧
      ((∀ role spec, job.spec? role = some spec → spec.Unlisted) →
        (∀ endpoint ∈ found.all, endpoint.host = "127.0.0.1") ∧
          found.all.map (·.port.toNat) = List.range' job.start found.all.length)) ∧
    (¬job.Overflows → ∀ error, job.endpoints = .error error → error.IsConfig) := by
  refine ⟨fun found => endpoints_eq_ok_iff, fun found resolved => ?_, fun fine error failed => ?_⟩
  · have lays := endpoints_eq_ok_iff.mp resolved
    refine ⟨fun role present => ?_, lays.ports⟩
    obtain ⟨spec, described⟩ := Option.isSome_iff_exists.mp present
    have given := lays role
    rw [described] at given
    exact given.ne_nil
  · exact (endpoints_error failed).resolve_right fine

/-- A job whose last port is the last one there is. -/
def countedJob : Description where
  servers := ⟨some 2, some " "⟩
  workers := ⟨some 1, none⟩
  heterWorkers := some ⟨some 2, none⟩
  explicit := none
  startPort := some 65531

theorem Description.endpoints_lays_countedJob : ∃ found, countedJob.endpoints = .ok found ∧
    found.all.map (·.port.toNat) = [65531, 65532, 65533, 65534, 65535] := by
  obtain ⟨-, consequences, -⟩ := endpoints_lays countedJob
  have resolved : countedJob.endpoints = .ok
      ⟨localBlock 65531 2, localBlock 65533 1, localBlock 65534 2⟩ := by decide +kernel
  refine ⟨_, resolved, ((consequences _ resolved).2 ?_).2⟩
  rintro role spec described text ⟨given, visible⟩
  cases role with
  | server =>
    cases described
    cases given
    exact Bool.eq_false_iff.mp (isEmpty_trim_iff.mpr visible) (by decide +kernel)
  | trainer =>
    cases described
    cases given
  | heterWorker =>
    cases described
    cases given

end TrainingLauncher.ParameterServer
