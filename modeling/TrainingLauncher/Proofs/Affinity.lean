/-
Which devices the processes of a parameter-server job may use. The launcher counts the entries of
the mask that it finds in its environment, and the workers and the heter workers of the node take
turns on so many devices: each is handed the number of its turn, in every variable that binds a
process to a device. The numbers are places in the mask, whatever the entries are called.

* `ServerJob.environment_affinity`: what a process is told of devices.
* `Job.runServers_spawns`: whatever a job spawns is the process at a post of the local pod.
* `Job.runServers_takes_turns`: the mask of every process of a job.
-/

import TrainingLauncher.Proofs.Inheritance

namespace TrainingLauncher

open Program

namespace Environment

/-- The variable is one of the entries of the mask. -/
def KeepsWithin (environment : Environment) (name mask : String) : Prop :=
  ∃ value ∈ Text.entries mask, environment[name]? = some value

/-- A variable that is a given text keeps within a mask that has the text for an entry. -/
theorem keepsWithin_iff {environment : Environment} {name mask value : String}
    (told : environment[name]? = some value) :
    environment.KeepsWithin name mask ↔ value ∈ Text.entries mask := by
  constructor
  · rintro ⟨other, listed, same⟩
    cases told.symm.trans same
    exact listed
  · exact fun listed => ⟨value, listed, told⟩

namespace ServerJob

variable {job : ServerJob} {role : Role} {process : RoleProcess} {slot : Nat} {own : Environment}
  {name : String}

/-- The mask of a family is one of the variables that bind a process to a device. -/
theorem maskVariable_mem (kind : DeviceKind) : kind.maskVariable ∈ affinityVariables := by
  cases kind <;> decide

/-- All variables that bind a process to a device have the number of its turn. -/
theorem affinity_of_mem (binds : name ∈ affinityVariables) :
    (job.affinity slot)[name]? = some (toString (slot % job.deviceCount)) := by
  revert binds
  simp only [affinityVariables, affinity, List.mem_cons, List.not_mem_nil, or_false]
  rintro (rfl | rfl | rfl | rfl) <;> simp [getElem?_ofList, List.lookup_cons]

/-- **The workers and the heter workers take turns on the devices.** -/
theorem environment_bound (answered : job.environment role process slot = .ok own)
    (works : role ≠ .server) (equipped : job.deviceCount ≠ 0) (binds : name ∈ affinityVariables) :
    own[name]? = some (toString (slot % job.deviceCount)) := by
  cases role with
  | trainer =>
    cases answered
    rw [if_neg equipped, getElem?_under, affinity_of_mem binds, Option.some_or]
  | server => exact (works rfl).elim
  | heterWorker =>
    rw [environment, if_neg equipped] at answered
    cases answered
    rw [getElem?_under, affinity_of_mem binds, Option.some_or]

/-- What the processes of a role have in common tells nobody of devices. -/
theorem common_unbound (binds : name ∈ affinityVariables) : (job.common role)[name]? = none := by
  rw [common, Environment.rendezvous, getElem?_under, getElem?_ofList_of_notMem,
    getElem?_ofList_of_notMem, Option.none_or]
  all_goals revert name; simp [affinityVariables]

/-- A server is not told of devices. -/
theorem environment_unbound (answered : job.environment .server process slot = .ok own)
    (binds : name ∈ affinityVariables) : own[name]? = none := by
  cases answered
  rw [getElem?_under, common_unbound binds, Option.or_none, listening, getElem?_ofList_of_notMem]
  revert name
  simp [affinityVariables]

end ServerJob

end Environment

namespace Job

open Rehearsal

section Turns

variable {config : LaunchConfig} {context : JobContext} {passes : Nat} {exchanges : List Exchange}
  {result : Except Stop Unit} {child : Nat} {command : Command} {environment : Environment}
  {output : Output} {answer : Except IoError Nat}

/-- Whatever a driver spawns in the directory to meet in, it spawns in its start. -/
theorem perform_spawns {cluster : Cluster} {pod : Pod} {kind : JobKind} {directory : String}
    (ran : Runs (perform config context passes cluster pod kind directory).run exchanges result)
    (spawns : ⟨.spawn child command environment output, answer⟩ ∈ exchanges) :
    ∃ starting outcome,
      Runs (startup config context cluster pod directory kind) starting outcome ∧
        ⟨.spawn child command environment output, answer⟩ ∈ starting := by
  obtain ⟨error, handles, -, started⟩ | ⟨starting, attending, handles, rfl, started, attended⟩ :=
    runs_perform ran
  · exact ⟨exchanges, _, started, spawns⟩
  · rcases List.mem_append.mp spawns with early | late
    · exact ⟨starting, _, started, early⟩
    · exact (attended.asked attend_spawnsNothing _ late).elim

/-- Whatever is spawned, the driver spawns while there is the directory to meet in. -/
theorem within_spawns {body : String → Run Unit}
    (ran : Runs (withRendezvous body).run exchanges result)
    (spawns : ⟨.spawn child command environment output, answer⟩ ∈ exchanges) :
    ∃ directory during ended, Runs (body directory).run during ended ∧
      ⟨.spawn child command environment output, answer⟩ ∈ during := by
  obtain ⟨error, rfl, -⟩ | ⟨directory, during, after, ended, rfl, inside, -, leaving⟩ :=
    runs_within ran
  · cases List.mem_singleton.mp spawns
  · rcases List.mem_cons.mp spawns with made | spawns
    · cases made
    · rcases List.mem_append.mp spawns with spawned | last
      · exact ⟨directory, during, ended, inside, spawned⟩
      · obtain ⟨-, -, rfl⟩ | ⟨-, removed, rfl⟩ := leaving
        · cases last
        · cases List.mem_singleton.mp last

/-- **Whatever a parameter-server job spawns** is the process at a post of the local pod, with the
variables of the post on top of those that the launcher hands down. -/
theorem runServers_spawns (ran : Runs (runServers config context passes).run exchanges result)
    (spawns : ⟨.spawn child command environment output, answer⟩ ∈ exchanges) :
    ∃ cluster index directory post own,
      config.serverDescription.build context.node.resolver = .ok (cluster, index) ∧
      ((podAt cluster index).posts (roles .parameterServer))[child]? = some post ∧
      (serverJob config context cluster directory).environment post.role post.process post.slot =
        .ok own ∧
      environment = context.base.withoutProxies.under own := by
  obtain ⟨-, -, rfl, -⟩ | ⟨cluster, index, built, within⟩ := runs_runServers ran
  · cases spawns
  · obtain ⟨directory, during, ended, inside, spawned⟩ := within_spawns within spawns
    obtain ⟨starting, outcome, started, begun⟩ := perform_spawns inside spawned
    obtain ⟨post, own, manned, tells, -, rfl⟩ := startup_spawns started begun
    exact ⟨cluster, index, directory, post, own, built, manned, tells, rfl⟩

/-- **The processes of a node take turns on the devices of the mask.** When the mask has entries,
every worker and every heter worker that a parameter-server job spawns is handed the number of its
turn, which is the place of an entry, in all variables that bind it to a device. So it keeps within
the mask exactly when that number is an entry itself, and all of them do when the mask lists the
numbers of its places. A server finds the variables as the launcher does. -/
theorem runServers_takes_turns
    (ran : Runs (runServers config context passes).run exchanges result) {mask : String}
    (masked : context.node.environment[config.heterWorkerDevice.maskVariable]? = some mask)
    (filled : Text.entries mask ≠ [])
    (spawns : ⟨.spawn child command environment output, answer⟩ ∈ exchanges) :
    ∃ cluster index post,
      config.serverDescription.build context.node.resolver = .ok (cluster, index) ∧
      ((podAt cluster index).posts (roles .parameterServer))[child]? = some post ∧
      (post.role ≠ .server → ∃ turn < (Text.entries mask).length,
        turn = post.slot % (Text.entries mask).length ∧
        (∀ name ∈ Environment.affinityVariables, environment[name]? = some (toString turn)) ∧
        (environment.KeepsWithin config.heterWorkerDevice.maskVariable mask ↔
          toString turn ∈ Text.entries mask) ∧
        ((∀ place < (Text.entries mask).length, toString place ∈ Text.entries mask) →
          environment.KeepsWithin config.heterWorkerDevice.maskVariable mask)) ∧
      (post.role = .server → ∀ name ∈ Environment.affinityVariables,
        environment[name]? = context.base[name]?) := by
  obtain ⟨cluster, index, directory, ⟨role, slot, process⟩, own, built, manned, answered, rfl⟩ :=
    runServers_spawns ran spawns
  have count : (serverJob config context cluster directory).deviceCount =
      (Text.entries mask).length := by
    rw [serverJob, Environment.ServerJob.ofCluster, Devices.detect, masked]
  have positive : 0 < (Text.entries mask).length := List.length_pos_iff.mpr filled
  refine ⟨cluster, index, _, built, manned, fun works => ?_, ?_⟩
  · have told : ∀ name ∈ Environment.affinityVariables,
        (context.base.withoutProxies.under own)[name]? =
          some (toString (slot % (Text.entries mask).length)) := by
      intro name binds
      have equipped : (serverJob config context cluster directory).deviceCount ≠ 0 :=
        count ▸ positive.ne'
      rw [Environment.getElem?_under,
        Environment.ServerJob.environment_bound answered works equipped binds, count,
        Option.some_or]
    have turn := Nat.mod_lt slot positive
    have within : Environment.KeepsWithin _ _ mask ↔ _ := Environment.keepsWithin_iff
      (told _ (Environment.ServerJob.maskVariable_mem config.heterWorkerDevice))
    exact ⟨_, turn, rfl, told, within, fun listed => within.mpr (listed _ turn)⟩
  · rintro rfl name binds
    have plain : name ∉ Environment.proxyVariables := by revert name; decide
    rw [Environment.getElem?_under, Environment.ServerJob.environment_unbound answered binds,
      Option.none_or, Environment.getElem?_withoutProxies, if_neg plain]

/-- A launcher that is confined to some devices. -/
def maskedContext (mask : String) : JobContext where
  node := ⟨.ofList [("CUDA_VISIBLE_DEVICES", mask)], none, ⟨none, none⟩, [], []⟩
  base := .ofList [("CUDA_VISIBLE_DEVICES", mask)]
  watchdog := bareContext.watchdog

/-- A job with one server and two workers. -/
def twoWorkers : LaunchConfig :=
  { LaunchConfig.ofScript "train.py" with
    mode := .ps
    servers := ⟨some 1, none⟩
    workers := ⟨some 2, none⟩ }

/-- What is said during that job. -/
def maskedJob (mask : String) : List Exchange :=
  (runServers twoWorkers (maskedContext mask) 1).run.transcript Stage.host patientMachine

/-- The cluster of that job. -/
def twoWorkersCluster : Cluster := .ofPods [
  { Pod.empty 0 "127.0.0.1" with
    servers := [⟨[], ⟨"127.0.0.1", 6070⟩, 0⟩]
    trainers := [⟨[], ⟨"127.0.0.1", 6071⟩, 0⟩, ⟨[], ⟨"127.0.0.1", 6072⟩, 1⟩] }]

theorem build_twoWorkers (mask : String) :
    twoWorkers.serverDescription.build (maskedContext mask).node.resolver =
      .ok (twoWorkersCluster, 0) := by
  show twoWorkers.serverDescription.build ⟨none, none⟩ = _
  decide +kernel

/-- The child that is to be started, and the mask that it is handed. -/
def handed? : Exchange → Option (Nat × Option String)
  | ⟨.spawn child _ environment _, _⟩ => some (child, environment["CUDA_VISIBLE_DEVICES"]?)
  | _ => none

theorem spawns_of_handed {value : Option String}
    (handed : (child, value) ∈ exchanges.filterMap handed?) :
    ∃ command environment output answer,
      ⟨.spawn child command environment output, answer⟩ ∈ exchanges ∧
        environment["CUDA_VISIBLE_DEVICES"]? = value := by
  obtain ⟨⟨request, answer⟩, member, same⟩ := List.mem_filterMap.mp handed
  cases request with
  | spawn number command environment output =>
    cases same
    exact ⟨command, environment, output, answer, member, rfl⟩
  | _ => cases same

theorem runServers_takes_turns_maskedJob : ∃ command environment output answer,
    ⟨.spawn 2 command environment output, answer⟩ ∈ maskedJob "1,0" ∧
      environment.KeepsWithin "CUDA_VISIBLE_DEVICES" "1,0" := by
  have handed : (maskedJob "1,0").filterMap handed? =
      [(0, some "1,0"), (1, some "0"), (2, some "1")] := by decide +kernel
  have second : (2, some "1") ∈ (maskedJob "1,0").filterMap handed? := by rw [handed]; decide
  obtain ⟨command, environment, output, answer, spawns, -⟩ := spawns_of_handed second
  have masked : (maskedContext "1,0").node.environment[twoWorkers.heterWorkerDevice.maskVariable]? =
      some "1,0" := by decide +kernel
  obtain ⟨cluster, index, post, built, manned, works, -⟩ :=
    runServers_takes_turns (runs_transcript Stage.host _ patientMachine) masked (by decide) spawns
  cases (build_twoWorkers "1,0").symm.trans built
  cases manned
  obtain ⟨_, -, -, -, -, within⟩ := works (by decide)
  exact ⟨command, environment, output, answer, spawns, within (by decide)⟩

theorem runServers_leaves_mask : ∃ post command environment output answer,
    (maskedContext "2,3").node.environment[twoWorkers.heterWorkerDevice.maskVariable]? =
        some "2,3" ∧
      twoWorkers.serverDescription.build (maskedContext "2,3").node.resolver =
        .ok (twoWorkersCluster, 0) ∧
      ((podAt twoWorkersCluster 0).posts (roles .parameterServer))[1]? = some post ∧
      post.role = .trainer ∧
      ⟨.spawn 1 command environment output, answer⟩ ∈ maskedJob "2,3" ∧
      ¬environment.KeepsWithin twoWorkers.heterWorkerDevice.maskVariable "2,3" := by
  have handed : (maskedJob "2,3").filterMap handed? =
      [(0, some "2,3"), (1, some "0"), (2, some "1")] := by decide +kernel
  have first : (1, some "0") ∈ (maskedJob "2,3").filterMap handed? := by rw [handed]; decide
  obtain ⟨command, environment, output, answer, spawns, told⟩ := spawns_of_handed first
  refine ⟨_, command, environment, output, answer, by decide +kernel, build_twoWorkers "2,3", rfl,
    rfl, spawns, fun within => ?_⟩
  exact absurd ((Environment.keepsWithin_iff told).mp within) (by decide)

end Turns

end Job

end TrainingLauncher
