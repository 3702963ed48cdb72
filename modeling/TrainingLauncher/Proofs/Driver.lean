/-
The two drivers of a job, the collective one and the one with parameter servers, as one. Both find
the topology of the job first. Then, within a directory to meet in, they start the processes of
their roles on the local pod and attend to those that run.

* `Pod.posts`: the processes of a pod in the order in which a driver starts them.
* `Job.startup`, `Job.attend`, `Job.perform`: the parts of a driver.
* `Job.startup_courses`, `Job.agenda_getElem?`: a driver starts one task for every post of its pod.
* `Job.runs_within`: the directory to meet in is made first and removed last.
* `Job.runs_perform`: in between the processes are started, and then attended to.
* `Job.runs_runServers`, `Job.runs_launch`: every run of a driver is made of these parts.
-/

import TrainingLauncher.Proofs.Job
import TrainingLauncher.Proofs.Rounds
import TrainingLauncher.Proofs.Startup
import TrainingLauncher.Proofs.Topology.Derivation

namespace TrainingLauncher

open Program

section Reports

theorem ofNoted_reports {noted : Noted α} {exchanges : List Exchange}
    {result : Except LaunchError α}
    (ran : Runs (ofNoted noted) exchanges result) : Reports exchanges ∧ result = noted.result := by
  have reports (notes : List Note) : (reportAll notes).Asks Request.IsReport := by
    induction notes with
    | nil => exact asks_pure _
    | cons note rest ih => exact asks_bind (asks_request trivial) fun _ => ih
  obtain ⟨told, nothing, _, rfl, reported, done⟩ := (runs_bind _ _ _ _).mp ran
  obtain ⟨rfl, rfl⟩ := runs_pure.mp done
  rw [List.append_nil]
  exact ⟨reported.asked (reports noted.notes), rfl⟩

end Reports

/-- A post on a pod: a role, a place among the local processes of the role, and the process. -/
structure Post where
  role : Role
  slot : Nat
  process : RoleProcess
  deriving DecidableEq, Repr

/-- The role of a post and its place among the local ones. -/
def Post.seat (post : Post) : Role × Nat := (post.role, post.slot)

/-- The posts of a pod, role by role. -/
def Pod.posts (pod : Pod) (roles : List Role) : List Post :=
  roles.flatMap fun role =>
    (pod.processes role).zipIdx.map fun (process, slot) => ⟨role, slot, process⟩

namespace Launcher

/-- The post that a task is for. -/
def Task.post (task : Task) : Post := ⟨task.role, task.slot, task.process⟩

theorem tasks_post (pod : Pod) (role : Role)
    (own : RoleProcess → Nat → Except LaunchError Environment) :
    (tasks pod role own).map Task.post = pod.posts [role] := by
  rw [tasks, List.map_map, Pod.posts, List.flatMap_singleton]
  rfl

theorem flatMap_tasks_post (pod : Pod) (roles : List Role)
    (own : Role → RoleProcess → Nat → Except LaunchError Environment) :
    (roles.flatMap fun role => tasks pod role (own role)).map Task.post = pod.posts roles := by
  rw [List.map_flatMap, Pod.posts]
  refine congrArg (List.flatMap · roles) (funext fun role => ?_)
  rw [tasks_post, Pod.posts, List.flatMap_singleton]

/-- A task is for a process of its role, and has the variables of that process. -/
theorem own_of_mem_tasks {pod : Pod} {role : Role}
    {own : RoleProcess → Nat → Except LaunchError Environment} {task : Task}
    (member : task ∈ tasks pod role own) :
    task.role = role ∧ task.own = own task.process task.slot := by
  obtain ⟨⟨process, slot⟩, -, rfl⟩ := List.mem_map.mp member
  exact ⟨rfl, rfl⟩

/-- A task of a parameter-server job has the variables that the job has for it. -/
theorem own_of_mem_serverTasks {pod : Pod} {job : Environment.ServerJob} {task : Task}
    (member : task ∈ serverTasks pod job) :
    task.own = job.environment task.role task.process task.slot := by
  obtain ⟨role, -, member⟩ := List.mem_flatMap.mp member
  obtain ⟨rfl, own⟩ := own_of_mem_tasks member
  exact own

end Launcher

namespace Job

section Parts

/-- The roles whose processes a driver starts, in this order. -/
def roles : JobKind → List Role
  | .collective => [.trainer]
  | .parameterServer => [.server, .trainer, .heterWorker]

/-- The tasks of a driver on a pod. -/
def agenda (config : LaunchConfig) (context : JobContext) (cluster : Cluster) (pod : Pod)
    (directory : String) : JobKind → List Launcher.Task
  | .collective => Launcher.trainerTasks cluster pod (.rendezvous directory)
  | .parameterServer => Launcher.serverTasks pod (serverJob config context cluster directory)

/-- The variables that a driver has for a post. -/
def settings (config : LaunchConfig) (context : JobContext) (cluster : Cluster)
    (directory : String) : JobKind → Post → Except LaunchError Environment
  | .collective, post =>
    .ok ((Environment.rendezvous directory).under (.ofTrainer cluster post.process))
  | .parameterServer, post =>
    (serverJob config context cluster directory).environment post.role post.process post.slot

/-- A driver starts the processes of a pod. -/
def startup (config : LaunchConfig) (context : JobContext) (cluster : Cluster) (pod : Pod)
    (directory : String) : JobKind → Program (Except LaunchError Unit × List Handle)
  | .collective =>
    (launcher config context).startTrainers cluster pod (.rendezvous directory)
  | .parameterServer =>
    (launcher config context).startServerRoles cluster pod
      (serverJob config context cluster directory)

/-- A driver attends to the processes that it has started. -/
def attend (context : JobContext) (passes : Nat) (cluster : Cluster) (pod : Pod) :
    JobKind → List Handle → Run Unit
  | .collective, handles => do
    let _ ← supervise (context.watchdog.run cluster.trainerCount passes handles)
    report .info "local processes completed"
  | .parameterServer, handles => do
    let handles ← supervise <|
      context.watchdog.runUntil (keepsAlive pod) cluster.trainerCount passes handles
    stopServers context.watchdog.termination handles

/-- What a driver does in the directory to meet in. -/
def perform (config : LaunchConfig) (context : JobContext) (passes : Nat) (cluster : Cluster)
    (pod : Pod) (kind : JobKind) (directory : String) : Run Unit := do
  let handles ← start (startup config context cluster pod directory kind)
  attend context passes cluster pod kind handles

/-- The job is run by a driver; the other jobs are placed by a scheduler and started directly. -/
def IsDriven (config : LaunchConfig) (node : Node) : Prop :=
  config.kind = .parameterServer → isPlaced config node = false

end Parts

section Starts

variable {config : LaunchConfig} {context : JobContext} {cluster : Cluster} {pod : Pod}
  {directory : String} {kind : JobKind} {exchanges : List Exchange}
  {outcome : Except LaunchError Unit × List Handle}

/-- What a driver starts are its tasks. -/
theorem startup_courses
    (ran : Runs (startup config context cluster pod directory kind) exchanges outcome) :
    (launcher config context).Courses cluster (agenda config context cluster pod directory kind)
      exchanges outcome := by
  cases kind with
  | collective => exact Launcher.startTrainers_courses ran
  | parameterServer => exact Launcher.startServerRoles_courses ran

/-- A driver's start prepares, spawns and discards, and does nothing else. -/
theorem startup_isStarting :
    (startup config context cluster pod directory kind).Asks Request.IsStarting := by
  cases kind with
  | collective => exact Launcher.startTrainers_isStarting _ _ _
  | parameterServer => exact Launcher.startServerRoles_isStarting _ _ _

/-- **The tasks of a driver are those of the posts of the pod**, in the order of its roles. -/
theorem agenda_posts : (agenda config context cluster pod directory kind).map Launcher.Task.post =
    pod.posts (roles kind) := by
  cases kind with
  | collective => rw [agenda, Launcher.trainerTasks, Launcher.tasks_post, roles]
  | parameterServer => exact Launcher.flatMap_tasks_post pod _ _

/-- Every task has the variables of its post. -/
theorem agenda_own {task : Launcher.Task}
    (member : task ∈ agenda config context cluster pod directory kind) :
    task.own = settings config context cluster directory kind task.post := by
  cases kind with
  | collective =>
    rw [agenda, Launcher.trainerTasks] at member
    rw [(Launcher.own_of_mem_tasks member).2, settings, Launcher.Task.post]
  | parameterServer => exact Launcher.own_of_mem_serverTasks member

/-- The task at a place is for the post at that place, and has its variables. -/
theorem agenda_getElem? {place : Nat} {task : Launcher.Task}
    (here : (agenda config context cluster pod directory kind)[place]? = some task) :
    (pod.posts (roles kind))[place]? = some task.post ∧
      task.own = settings config context cluster directory kind task.post := by
  refine ⟨?_, agenda_own (List.mem_of_getElem? here)⟩
  have posts := @agenda_posts config context cluster pod directory kind
  rw [← posts, List.getElem?_map, here, Option.map_some]

end Starts

section Asks

variable {allowed : Request → Prop}

/-- A sequence of steps asks for what its steps ask for. -/
theorem asks_run_bind {step : Run α} {next : α → Run β} (first : step.run.Asks allowed)
    (second : ∀ value, (next value).run.Asks allowed) : (step >>= next).run.Asks allowed := by
  rw [ExceptT.run_bind]
  refine asks_bind first fun result => ?_
  cases result with
  | error stop => exact asks_pure _
  | ok value => exact second value

theorem asks_report {severity : Severity} {text : String}
    (fine : allowed (.report ⟨severity, text⟩)) : (report severity text).run.Asks allowed :=
  asks_bind (report_asks _ _ fine) fun _ => asks_pure _

theorem asks_attempt {step : Program (Except LaunchError α)} (fine : step.Asks allowed) :
    (attempt step).run.Asks allowed :=
  asks_bind fine fun _ => asks_pure _

theorem asks_supervise {supervision : Program (Except Stop Unit × List Handle)}
    (fine : supervision.Asks allowed) : (supervise supervision).run.Asks allowed :=
  asks_bind fine fun (result, _) => by cases result <;> exact asks_pure _

/-- Attending to processes is to supervise them and to stop those that are left. -/
theorem attend_isSupervising {context : JobContext} {passes : Nat} {cluster : Cluster} {pod : Pod}
    {kind : JobKind} {handles : List Handle} :
    (attend context passes cluster pod kind handles).run.Asks Request.IsSupervising := by
  cases kind with
  | collective =>
    exact asks_run_bind (asks_supervise Watchdog.runUntil_isSupervising) fun _ =>
      asks_report (.inl trivial)
  | parameterServer =>
    refine asks_run_bind (asks_supervise Watchdog.runUntil_isSupervising) fun left => ?_
    refine asks_run_bind (asks_report (.inl trivial)) fun _ => asks_run_bind ?_ fun _ =>
      asks_report (.inl trivial)
    have stops := (Termination.run_isStopping left context.watchdog.termination).mono
      fun _ stopping => (.inr (.inl stopping) : Request.IsSupervising _)
    exact asks_attempt (asks_bind stops fun _ => asks_pure _)

/-- Attending to processes starts none. -/
theorem attend_spawnsNothing {context : JobContext} {passes : Nat} {cluster : Cluster} {pod : Pod}
    {kind : JobKind} {handles : List Handle} :
    (attend context passes cluster pod kind handles).run.Asks Request.SpawnsNothing :=
  attend_isSupervising.mono fun _ => Request.IsSupervising.spawnsNothing

end Asks

section Runs

variable {config : LaunchConfig} {context : JobContext} {passes : Nat} {exchanges : List Exchange}
  {result : Except Stop Unit}

/-- **The directory to meet in** is the first thing that is made, and is removed last, unless the
body is unfinished. -/
theorem runs_within {body : String → Run Unit}
    (ran : Runs (withRendezvous body).run exchanges result) :
    (∃ error, exchanges = [⟨.createRendezvous rendezvousStem, .error error⟩] ∧
      result = .error (.failed (.io error))) ∨
    ∃ directory during after ended,
      exchanges = ⟨.createRendezvous rendezvousStem, .ok directory⟩ :: (during ++ after) ∧
      Runs (body directory).run during ended ∧ (result = .ok () → ended = .ok ()) ∧
      (ended = .error .unfinished ∧ result = .error .unfinished ∧ after = [] ∨
        ended ≠ .error .unfinished ∧
          ∃ removed, after = [⟨.removeRendezvous directory, removed⟩]) := by
  obtain ⟨answer, rest, rfl, going⟩ := runs_ask.mp ran
  cases answer with
  | error error =>
    obtain ⟨rfl, rfl⟩ := runs_pure.mp going
    exact .inl ⟨error, rfl, rfl⟩
  | ok directory =>
    obtain ⟨during, after, ended, rfl, inside, closing⟩ := (runs_bind _ _ _ _).mp going
    refine .inr ⟨directory, during, after, ended, rfl, inside, ?_⟩
    cases ended with
    | error stop =>
      cases stop with
      | unfinished =>
        obtain ⟨rfl, rfl⟩ := runs_pure.mp closing
        exact ⟨fun same => (by cases same), .inl ⟨rfl, rfl, rfl⟩⟩
      | failed error =>
        obtain ⟨removed, last, rfl, done⟩ := runs_ask.mp closing
        obtain ⟨rfl, rfl⟩ := runs_pure.mp done
        exact ⟨fun same => (by cases same), .inr ⟨fun same => (by cases same), removed, rfl⟩⟩
    | ok =>
      obtain ⟨removed, last, rfl, done⟩ := runs_ask.mp closing
      refine ⟨fun _ => rfl, .inr ⟨fun same => (by cases same), removed, ?_⟩⟩
      cases removed <;> rw [(runs_pure.mp done).1]

/-- What a driver does in the directory ends with the start, or is the start and what it does for
the processes that run. -/
theorem runs_perform {cluster : Cluster} {pod : Pod} {kind : JobKind} {directory : String}
    (ran : Runs (perform config context passes cluster pod kind directory).run exchanges result) :
    (∃ error handles, result = .error (.failed error) ∧
      Runs (startup config context cluster pod directory kind) exchanges
        (.error error, handles)) ∨
    ∃ starting attending handles, exchanges = starting ++ attending ∧
      Runs (startup config context cluster pod directory kind) starting (.ok (), handles) ∧
      Runs (attend context passes cluster pod kind handles).run attending result := by
  obtain ⟨_, rfl, failed⟩ | ⟨starting, attending, handles, rfl, started, after⟩ :=
    runs_run_bind.mp ran
  · obtain ⟨_, absurd, -⟩ | ⟨error, handles, same, starting⟩ := runs_start failed
    · cases absurd
    · cases same
      exact .inl ⟨error, handles, rfl, starting⟩
  · obtain ⟨_, same, begun⟩ | ⟨_, _, absurd, -⟩ := runs_start started
    · cases same
      exact .inr ⟨starting, attending, handles, rfl, begun, after⟩
    · cases absurd

/-- A run of the driver with parameter servers ends with the topology, or takes place in the
directory to meet in. -/
theorem runs_runServers (ran : Runs (runServers config context passes).run exchanges result) :
    (∃ error, config.serverDescription.build context.node.resolver = .error error ∧
      exchanges = [] ∧ result = .error (.failed error)) ∨
    ∃ cluster index,
      config.serverDescription.build context.node.resolver = .ok (cluster, index) ∧
      Runs (withRendezvous (perform config context passes cluster (podAt cluster index)
        .parameterServer)).run exchanges result := by
  obtain ⟨stop, rfl, failed⟩ | ⟨first, rest, ⟨cluster, index⟩, rfl, built, after⟩ :=
    runs_run_bind.mp ran
  · obtain ⟨answer, nothing, same⟩ := runs_attempt failed
    obtain ⟨rfl, rfl⟩ := runs_pure.mp nothing
    cases derived : config.serverDescription.build context.node.resolver with
    | ok topology => rw [derived] at same; cases same
    | error error => rw [derived] at same; cases same; exact .inl ⟨error, rfl, rfl, rfl⟩
  · obtain ⟨answer, nothing, same⟩ := runs_attempt built
    obtain ⟨rfl, rfl⟩ := runs_pure.mp nothing
    cases derived : config.serverDescription.build context.node.resolver with
    | error error => rw [derived] at same; cases same
    | ok topology => rw [derived] at same; cases same; exact .inr ⟨cluster, index, rfl, after⟩

/-- A run of the collective driver tells what it has noted about the topology; then it ends, or
takes place in the directory to meet in. -/
theorem runs_runCollective (ran : Runs (runCollective config context passes).run exchanges result) :
    ∃ told rest, exchanges = told ++ rest ∧ Reports told ∧
      ((∃ error, (config.collectiveTopology context.node).result = .error error ∧
        rest = [] ∧ result = .error (.failed error)) ∨
      ∃ cluster index, (config.collectiveTopology context.node).result = .ok (cluster, index) ∧
        Runs (withRendezvous (perform config context passes cluster (podAt cluster index)
          .collective)).run rest result) := by
  obtain ⟨stop, rfl, failed⟩ | ⟨told, rest, ⟨cluster, index⟩, rfl, built, after⟩ :=
    runs_run_bind.mp ran
  · obtain ⟨answer, noted, same⟩ := runs_attempt failed
    obtain ⟨reports, rfl⟩ := ofNoted_reports noted
    refine ⟨exchanges, [], (List.append_nil _).symm, reports, .inl ?_⟩
    cases derived : (config.collectiveTopology context.node).result with
    | ok topology => rw [derived] at same; cases same
    | error error => rw [derived] at same; cases same; exact ⟨error, rfl, rfl, rfl⟩
  · obtain ⟨answer, noted, same⟩ := runs_attempt built
    obtain ⟨reports, rfl⟩ := ofNoted_reports noted
    refine ⟨told, rest, rfl, reports, .inr ?_⟩
    cases derived : (config.collectiveTopology context.node).result with
    | error error => rw [derived] at same; cases same
    | ok topology => rw [derived] at same; cases same; exact ⟨cluster, index, rfl, after⟩

/-- **A job that a driver runs** tells the operator something. Then it ends for want of a topology,
or the driver does its part in the directory to meet in, for the pod that the topology says is the
local one. -/
theorem runs_launch (driven : IsDriven config context.node)
    (ran : Runs (launch config context passes).run exchanges result) :
    ∃ told rest, exchanges = told ++ rest ∧ Reports told ∧
      ((∃ error, (config.topology context.node).result = .error error ∧
        rest = [] ∧ result = .error (.failed error)) ∨
      ∃ cluster index, (config.topology context.node).result = .ok (cluster, index) ∧
        Runs (withRendezvous (perform config context passes cluster (podAt cluster index)
          config.kind)).run rest result) := by
  obtain ⟨_, -, stopped⟩ | ⟨first, later, _, rfl, reported, after⟩ := runs_run_bind.mp ran
  · cases (runs_report stopped).2
  have greeted : Reports first := by
    obtain ⟨told, nothing, _, rfl, noted, done⟩ := (runs_bind _ _ _ _).mp reported
    obtain ⟨rfl, -⟩ := runs_pure.mp done
    rw [List.append_nil]
    exact noted.asked (report_asks _ _ trivial)
  rw [LaunchConfig.topology_result]
  cases kind : config.kind with
  | collective =>
    rw [kind] at after
    obtain ⟨told, rest, rfl, reports, ending⟩ := runs_runCollective after
    refine ⟨first ++ told, rest, (List.append_assoc ..).symm, fun exchange member => ?_, ending⟩
    exact (List.mem_append.mp member).elim (greeted exchange) (reports exchange)
  | parameterServer =>
    rw [kind] at after
    dsimp only at after
    rw [driven kind, if_neg Bool.false_ne_true] at after
    exact ⟨first, later, rfl, greeted, runs_runServers after⟩

end Runs

end Job

end TrainingLauncher
