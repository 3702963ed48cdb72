/-
When a job is refused because of its description. Nearly everything that can be wrong with it is
found while the topology is built, before anything is started. One thing is found only when its turn
comes: a heter worker needs a device, and servers and workers are started before heter workers.

* `Launcher.runs_startAll_config`: a start is refused at its first task without variables.
* `Launcher.runs_startServerRoles_config`: which start is refused, where, and what becomes of the
  processes that run by then.
* `Job.Accepts`: the steps of a job that never refuse the description.
* `Job.launch_refused`: the two ways in which a job is refused.
-/

import TrainingLauncher.Proofs.Children
import TrainingLauncher.Proofs.Topology.Derivation

namespace TrainingLauncher

open Program

namespace Launcher

variable {launcher : Launcher} {exchanges : List Exchange} {fault : ConfigFault}

section Tasks

/-- The variables of the process are known. -/
def Task.IsReady (task : Task) : Prop := ∃ own, task.own = .ok own

theorem Task.IsReady.not_refused {task : Task} (ready : task.IsReady) {error : LaunchError} :
    task.own ≠ .error error := by
  obtain ⟨own, known⟩ := ready
  rw [known]
  exact fun same => by cases same

/-- The first task that is refused is where a list of tasks is cut. -/
theorem first_refused_unique {before front after rest : List Task} {task other : Task}
    {error another : LaunchError} (same : before ++ task :: after = front ++ other :: rest)
    (known : ∀ earlier ∈ before, earlier.IsReady) (refused : task.own = .error error)
    (known' : ∀ earlier ∈ front, earlier.IsReady) (refused' : other.own = .error another) :
    before = front ∧ task = other := by
  rcases List.append_eq_append_iff.mp same with ⟨more, rfl, split⟩ | ⟨more, rfl, split⟩
  · cases more with
    | nil =>
      rw [List.nil_append] at split
      exact ⟨(List.append_nil _).symm, (List.cons.inj split).1⟩
    | cons first more =>
      obtain ⟨rfl, -⟩ := List.cons.inj split
      have ready := known' task (List.mem_append_right _ List.mem_cons_self)
      exact (ready.not_refused refused).elim
  · cases more with
    | nil =>
      rw [List.nil_append] at split
      exact ⟨List.append_nil _, (List.cons.inj split).1.symm⟩
    | cons first more =>
      obtain ⟨rfl, -⟩ := List.cons.inj split
      have ready := known other (List.mem_append_right _ List.mem_cons_self)
      exact (ready.not_refused refused').elim

theorem mem_tasks {pod : Pod} {role : Role}
    {own : RoleProcess → Nat → Except LaunchError Environment} {task : Task}
    (member : task ∈ tasks pod role own) :
    ∃ process slot, task.own = own process slot := by
  obtain ⟨⟨process, slot⟩, -, rfl⟩ := List.mem_map.mp member
  exact ⟨process, slot, rfl⟩

theorem length_tasks {pod : Pod} {role : Role}
    {own : RoleProcess → Nat → Except LaunchError Environment} :
    (tasks pod role own).length = (pod.processes role).length := by
  rw [tasks, List.length_map, List.length_zipIdx]

theorem trainerTasks_ready {cluster : Cluster} {pod : Pod} {extra : Environment} :
    ∀ task ∈ trainerTasks cluster pod extra, task.IsReady := by
  intro task member
  obtain ⟨process, slot, known⟩ := mem_tasks member
  exact ⟨_, known⟩

/-- The tasks that come before those of the heter workers. -/
def plainTasks (pod : Pod) (job : Environment.ServerJob) : List Task :=
  tasks pod .server (job.environment .server) ++ tasks pod .trainer (job.environment .trainer)

theorem serverTasks_eq {pod : Pod} {job : Environment.ServerJob} :
    serverTasks pod job =
      plainTasks pod job ++ tasks pod .heterWorker (job.environment .heterWorker) := by
  simp only [serverTasks, plainTasks, List.flatMap_cons, List.flatMap_nil, List.append_nil,
    List.append_assoc]

theorem plainTasks_ready {pod : Pod} {job : Environment.ServerJob} :
    ∀ task ∈ plainTasks pod job, task.IsReady := by
  intro task member
  rcases List.mem_append.mp member with member | member
  · obtain ⟨process, slot, known⟩ := mem_tasks member
    exact ⟨_, known⟩
  · obtain ⟨process, slot, known⟩ := mem_tasks member
    exact ⟨_, known⟩

theorem length_plainTasks {pod : Pod} {job : Environment.ServerJob} :
    (plainTasks pod job).length = pod.servers.length + pod.trainers.length := by
  rw [plainTasks, List.length_append, length_tasks, length_tasks]
  rfl

/-- A heter worker has variables when there is a device, and is refused when there is none. -/
theorem heterWorker_environment (job : Environment.ServerJob) (process : RoleProcess) (slot : Nat) :
    (job.deviceCount ≠ 0 ∧ ∃ own, job.environment .heterWorker process slot = .ok own) ∨
      job.deviceCount = 0 ∧ job.environment .heterWorker process slot =
        .error (.config (.heterWorkerWithoutDevice process.rank job.heterDevice)) := by
  rw [Environment.ServerJob.environment]
  split
  · rename_i none
    exact .inr ⟨none, rfl⟩
  · rename_i some
    exact .inl ⟨some, _, rfl⟩

/-- **The first task of a pod that is refused** is that of its first heter worker, without a
device. -/
theorem serverTasks_refused {pod : Pod} {job : Environment.ServerJob} {before after : List Task}
    {task : Task} {error : LaunchError} (split : serverTasks pod job = before ++ task :: after)
    (known : ∀ earlier ∈ before, earlier.IsReady) (refused : task.own = .error error) :
    job.deviceCount = 0 ∧ before = plainTasks pod job ∧ ∃ first others,
      pod.heterWorkers = first :: others ∧
        error = .config (.heterWorkerWithoutDevice first.rank job.heterDevice) := by
  rw [serverTasks_eq] at split
  -- only heter workers are refused, and without a device the first of them is
  have member : task ∈ tasks pod .heterWorker (job.environment .heterWorker) := by
    have member : task ∈ before ++ task :: after := List.mem_append_right _ List.mem_cons_self
    rw [← split] at member
    refine (List.mem_append.mp member).resolve_left fun plain => ?_
    exact (plainTasks_ready task plain).not_refused refused
  obtain ⟨process, slot, known'⟩ := mem_tasks member
  have none : job.deviceCount = 0 := by
    rcases heterWorker_environment job process slot with ⟨-, own, ready⟩ | ⟨none, -⟩
    · exact (Task.IsReady.not_refused ⟨own, known'.trans ready⟩ refused).elim
    · exact none
  cases heterWorkers : pod.heterWorkers with
  | nil =>
    have empty : tasks pod .heterWorker (job.environment .heterWorker) = [] := by
      rw [tasks, Pod.processes, heterWorkers]
      rfl
    rw [empty] at member
    cases member
  | cons first others =>
    obtain ⟨head, rest, cut, lacks⟩ : ∃ head rest,
        tasks pod .heterWorker (job.environment .heterWorker) = head :: rest ∧
          head.own = .error (.config (.heterWorkerWithoutDevice first.rank job.heterDevice)) := by
      rw [tasks, Pod.processes, heterWorkers]
      rcases heterWorker_environment job first 0 with ⟨some, -⟩ | ⟨-, lacks⟩
      · exact (some none).elim
      · exact ⟨_, _, rfl, lacks⟩
    rw [cut] at split
    obtain ⟨rfl, rfl⟩ := first_refused_unique split.symm known refused plainTasks_ready lacks
    exact ⟨none, rfl, first, others, rfl, Except.error.inj (refused.symm.trans lacks)⟩

end Tasks

section Starts

theorem runs_openLog_error {task : Task} {error : LaunchError}
    (ran : Runs (launcher.openLog task) exchanges (.error error)) : ∃ cause, error = .io cause := by
  unfold openLog at ran
  split at ran
  · cases (runs_pure.mp ran).2
  · obtain ⟨created, rest, rfl, after⟩ := runs_ask.mp ran
    cases created with
    | error cause => exact ⟨cause, Except.error.inj (runs_pure.mp after).2⟩
    | ok =>
      obtain ⟨opened, last, rfl, done⟩ := runs_ask.mp after
      cases opened with
      | error cause => exact ⟨cause, Except.error.inj (runs_pure.mp done).2⟩
      | ok => cases (runs_pure.mp done).2

/-- A process without variables is refused before anything is done for it. Of the others, one that
is started was to be started once, and what stops one that is not says nothing of the
description. -/
theorem startOne_cases {child : Nat} {task : Task} {result : Except LaunchError Handle}
    (ran : Runs (launcher.startOne child task) exchanges result) :
    (∃ error, task.own = .error error ∧ result = .error error ∧ exchanges = []) ∨
      task.IsReady ∧
        ((∃ handle, result = .ok handle ∧ handle.child = child ∧ attempts exchanges = [child]) ∨
          ∃ error, result = .error error ∧ ¬error.IsConfig) := by
  unfold startOne at ran
  split at ran
  · rename_i error known
    obtain ⟨rfl, rfl⟩ := runs_pure.mp ran
    exact .inl ⟨error, known, rfl, rfl⟩
  · rename_i own known
    refine .inr ⟨⟨own, known⟩, ?_⟩
    obtain ⟨told, second, _, rfl, reported, after⟩ := (runs_bind _ _ _ _).mp ran
    obtain ⟨opening, third, opened, rfl, openedLog, going⟩ := (runs_bind _ _ _ _).mp after
    have quiet : Idle (told ++ opening) :=
      Idle.append (reported.asked (reportVariables_isIdle task own))
        (openedLog.asked (openLog_isIdle task))
    cases opened with
    | error error =>
      obtain ⟨rfl, rfl⟩ := runs_pure.mp going
      obtain ⟨cause, rfl⟩ := runs_openLog_error openedLog
      exact .inr ⟨_, rfl, fun ⟨_, same⟩ => LaunchError.noConfusion same⟩
    | ok log =>
      obtain ⟨answer, rest, rfl, done⟩ := runs_ask.mp going
      cases answer with
      | error error =>
        obtain ⟨rfl, rfl⟩ := runs_pure.mp done
        exact .inr ⟨_, rfl, fun ⟨_, same⟩ => LaunchError.noConfusion same⟩
      | ok pid =>
        obtain ⟨rfl, rfl⟩ := runs_pure.mp done
        refine .inl ⟨_, rfl, rfl, ?_⟩
        rw [← List.append_assoc, attempts_append, quiet.attempts]
        rfl

/-- Discarding starts nothing. -/
theorem discardAll_spawnsNothing (handles : List Handle) :
    (discardAll handles).Asks Request.SpawnsNothing :=
  (discardAll_isDiscarding handles).mono fun _ => Request.IsDiscarding.spawnsNothing

/-- **A start is refused at the first task that is not ready.** Everything before it has been
started by then, nothing else is, and all of it is stopped by force. -/
theorem runs_startAll_config {started handles : List Handle} {tasks : List Task}
    (ran : Runs (launcher.startAll started tasks) exchanges (.error (.config fault), handles)) :
    ∃ before task after, tasks = before ++ task :: after ∧
      (∀ earlier ∈ before, earlier.IsReady) ∧ task.own = .error (.config fault) ∧
      attempts exchanges = List.range' (launcher.nextChild + started.length) before.length ∧
      ∀ child, child ∈ started.map Handle.child ∨ child ∈ attempts exchanges →
        ∃ exchange ∈ exchanges, exchange.request = .kill child := by
  induction tasks generalizing started exchanges with
  | nil => cases (runs_pure.mp ran).2
  | cons task tasks ih =>
    rw [startAll] at ran
    obtain ⟨first, second, result, rfl, tried, after⟩ := (runs_bind _ _ _ _).mp ran
    rcases startOne_cases tried with
      ⟨error, lacks, rfl, rfl⟩ | ⟨ready, ⟨handle, rfl, same, attempted⟩ | ⟨error, rfl, other⟩⟩
    · -- the task is refused: nothing is done for it, and those that run are discarded
      obtain ⟨discarding, last, _, rfl, discarded, done⟩ := (runs_bind _ _ _ _).mp after
      obtain ⟨rfl, same⟩ := runs_pure.mp done
      cases same
      have nothing := attempts_eq_nil (discarded.asked (discardAll_spawnsNothing started))
      rw [List.nil_append, List.append_nil, nothing]
      refine ⟨[], task, tasks, rfl, List.forall_mem_nil _, lacks, rfl, fun child member => ?_⟩
      have running := member.resolve_right List.not_mem_nil
      obtain ⟨exchange, inside, kills⟩ := (runs_discardAll discarded).2.killed child running
      exact ⟨exchange, calls_subset _ inside, kills⟩
    · obtain ⟨before, refused, rest, rfl, known, lacks, numbers, killed⟩ := ih after
      refine ⟨task :: before, refused, rest, rfl, List.forall_mem_cons.mpr ⟨ready, known⟩, lacks,
        ?_, fun child member => ?_⟩
      · rw [attempts_append, attempted, numbers, List.length_append]
        rfl
      · rw [attempts_append, attempted, ← same] at member
        have later : child ∈ (started ++ [handle]).map Handle.child ∨ child ∈ attempts second := by
          rw [List.map_append, List.mem_append]
          rcases member with member | member
          · exact .inl (.inl member)
          · exact (List.mem_append.mp member).imp_left .inr
        obtain ⟨exchange, inside, kills⟩ := killed child later
        exact ⟨exchange, List.mem_append_right _ inside, kills⟩
    · obtain ⟨discarding, last, _, rfl, discarded, done⟩ := (runs_bind _ _ _ _).mp after
      cases (runs_pure.mp done).2
      exact (other ⟨_, rfl⟩).elim

variable {cluster : Cluster} {pod : Pod} {handles : List Handle}

/-- The start of a collective job is never refused. -/
theorem runs_startTrainers_config {extra : Environment} :
    ¬Runs (launcher.startTrainers cluster pod extra) exchanges
      (.error (.config fault), handles) := by
  intro ran
  cases startTrainers_performs ran with
  | tried _ _ started =>
    obtain ⟨before, task, after, split, -, refused, -⟩ := runs_startAll_config started
    have member : task ∈ trainerTasks cluster pod extra :=
      split ▸ List.mem_append_right _ List.mem_cons_self
    exact (trainerTasks_ready task member).not_refused refused

/-- **The start of a parameter-server job is refused only at its first heter worker**, when the node
has no device. By then all servers and workers of the pod have been started; they are stopped by
force. -/
theorem runs_startServerRoles_config {job : Environment.ServerJob}
    (ran : Runs (launcher.startServerRoles cluster pod job) exchanges
      (.error (.config fault), handles)) :
    job.deviceCount = 0 ∧
      (∃ first others, pod.heterWorkers = first :: others ∧
        fault = .heterWorkerWithoutDevice first.rank job.heterDevice) ∧
      attempts exchanges =
        List.range' launcher.nextChild (pod.servers.length + pod.trainers.length) ∧
      ∀ child ∈ attempts exchanges, ∃ exchange ∈ exchanges, exchange.request = .kill child := by
  cases startServerRoles_performs ran with
  | tried quiet idle started =>
    obtain ⟨before, task, others, split, known, refused, numbers, killed⟩ :=
      runs_startAll_config started
    obtain ⟨none, rfl, first, later, heterWorkers, same⟩ := serverTasks_refused split known refused
    rw [attempts_append, attempts_append, quiet.attempts, idle.attempts, List.nil_append,
      List.append_nil]
    refine ⟨none, ⟨first, later, heterWorkers, LaunchError.config.inj same⟩, ?_, ?_⟩
    · rw [numbers, length_plainTasks]
      rfl
    · intro child member
      obtain ⟨exchange, inside, kills⟩ := killed child (.inr member)
      exact ⟨exchange, List.mem_append_right _ (List.mem_append_left _ inside), kills⟩

end Starts

end Launcher

/-- Processes that cannot be stopped say nothing of the description. -/
theorem Termination.killRounds_error {interval rounds : Nat} {handles : List Handle}
    {exchanges : List Exchange} {error : LaunchError}
    (ran : Runs (killRounds interval handles rounds) exchanges (.error error)) :
    ¬error.IsConfig := by
  have stopped {exchanges : List Exchange} : ¬Runs reportStopped exchanges (.error error) := by
    intro ran
    obtain ⟨_, _, _, -, -, done⟩ := (runs_bind _ _ _ _).mp ran
    cases (runs_pure.mp done).2
  induction rounds generalizing exchanges with
  | zero =>
    obtain ⟨_, _, pids, -, -, after⟩ := (runs_bind _ _ _ _).mp ran
    cases pids with
    | nil => exact (stopped after).elim
    | cons pid others =>
      obtain ⟨_, _, _, -, -, done⟩ := (runs_bind _ _ _ _).mp after
      cases (runs_pure.mp done).2
      exact fun ⟨_, same⟩ => LaunchError.noConfusion same
  | succ rounds ih =>
    obtain ⟨_, _, found, -, -, after⟩ := (runs_bind _ _ _ _).mp ran
    cases found with
    | true =>
      obtain ⟨_, _, -, again⟩ := runs_ask.mp after
      exact ih again
    | false => exact (stopped after).elim

/-- What stops a supervision says nothing of the description. -/
theorem Watchdog.runUntil_error {watchdog : Watchdog} {keepsAlive : Role → Bool}
    {nranks passes : Nat} {handles left : List Handle} {exchanges : List Exchange}
    {error : LaunchError} (ran : Runs (watchdog.runUntil keepsAlive nranks passes handles) exchanges
      (.error (.failed error), left)) : ¬error.IsConfig := by
  obtain ⟨_, _, _, _, -, -, ⟨-, -, same⟩ | ⟨-, ends⟩⟩ := runs_runUntil ran
  · cases same
  · cases ends with
    | interrupted => exact fun ⟨_, same⟩ => LaunchError.noConfusion same
    | wrong note unflagged passed aborted =>
      obtain ⟨-, found, -, judged⟩ := Supervision.runs_pass passed
      unfold Supervision.judge at judged
      split at judged
      · cases judged
        exact fun ⟨_, same⟩ => LaunchError.noConfusion same
      · split at judged
        · cases judged
        · cases judged
          exact fun ⟨_, same⟩ => LaunchError.noConfusion same

namespace Job

open Rehearsal

section Accepts

/-- However the step runs, it does not refuse the description. -/
def Accepts (step : Run α) : Prop :=
  ∀ exchanges fault, ¬Runs step.run exchanges (.error (.failed (.config fault)))

theorem Accepts.bind {step : Run α} {next : α → Run β} (first : Accepts step)
    (second : ∀ value, Accepts (next value)) : Accepts (step >>= next) := by
  intro exchanges fault ran
  obtain ⟨_, same, stopped⟩ | ⟨_, _, value, -, -, after⟩ := runs_run_bind.mp ran
  · cases same
    exact first _ _ stopped
  · exact second value _ _ after

theorem accepts_pure (value : α) : Accepts (pure value : Run α) := by
  intro exchanges fault ran
  cases (runs_pure.mp ran).2

theorem accepts_report (severity : Severity) (text : String) : Accepts (report severity text) := by
  intro exchanges fault ran
  cases (runs_report ran).2

theorem accepts_attempt {step : Program (Except LaunchError α)}
    (fine : ∀ exchanges error, Runs step exchanges (.error error) → ¬error.IsConfig) :
    Accepts (attempt step) := by
  intro exchanges fault ran
  obtain ⟨answer, tried, same⟩ := runs_attempt ran
  cases answer with
  | error error =>
    cases same
    exact fine _ _ tried ⟨fault, rfl⟩
  | ok value => cases same

theorem accepts_supervise {watchdog : Watchdog} {keepsAlive : Role → Bool} {nranks passes : Nat}
    {handles : List Handle} :
    Accepts (supervise (watchdog.runUntil keepsAlive nranks passes handles)) := by
  intro exchanges fault ran
  obtain ⟨_, same, -⟩ | ⟨stop, left, same, supervised⟩ := runs_supervise ran
  · cases same
  · cases same
    exact Watchdog.runUntil_error supervised ⟨fault, rfl⟩

theorem accepts_stopServers {policy : TerminationPolicy} {handles : List Handle} :
    Accepts (stopServers policy handles) := by
  refine (accepts_report _ _).bind fun _ => Accepts.bind ?_ fun _ => accepts_report _ _
  refine accepts_attempt fun exchanges error ran => ?_
  obtain ⟨_, _, ⟨result, closed⟩, -, terminated, done⟩ := (runs_bind _ _ _ _).mp ran
  obtain ⟨-, rfl⟩ := runs_pure.mp done
  obtain ⟨-, _, _, _, -, -, ⟨-, -, same⟩ | ⟨killed, -, killing⟩⟩ := Termination.runs_run terminated
  · cases same
  · exact Termination.killRounds_error killing

end Accepts

section Refusal

variable {config : LaunchConfig} {context : JobContext} {passes : Nat} {exchanges : List Exchange}
  {fault : ConfigFault}

/-- A description is refused inside the directory to meet in when the body refuses it. -/
theorem runs_withRendezvous_config {body : String → Run Unit}
    (ran : Runs (withRendezvous body).run exchanges (.error (.failed (.config fault)))) :
    ∃ directory before during after, exchanges = before ++ (during ++ after) ∧ Idle before ∧
      Idle after ∧ Runs (body directory).run during (.error (.failed (.config fault))) := by
  obtain ⟨answer, rest, rfl, going⟩ := runs_ask.mp ran
  cases answer with
  | error error => cases (runs_pure.mp going).2
  | ok directory =>
    have created : Idle [⟨.createRendezvous rendezvousStem, .ok directory⟩] := by
      intro exchange member
      obtain rfl := List.mem_singleton.mp member
      trivial
    obtain ⟨during, after, ended, rfl, inside, closing⟩ := (runs_bind _ _ _ _).mp going
    refine ⟨directory, _, during, after, rfl, created, ?_⟩
    cases ended with
    | ok =>
      obtain ⟨removed, last, rfl, done⟩ := runs_ask.mp closing
      cases removed <;> cases (runs_pure.mp done).2
    | error stop =>
      cases stop with
      | unfinished => cases (runs_pure.mp closing).2
      | failed error =>
        obtain ⟨removed, last, rfl, done⟩ := runs_ask.mp closing
        obtain ⟨rfl, same⟩ := runs_pure.mp done
        cases same
        refine ⟨fun exchange member => ?_, inside⟩
        obtain rfl := List.mem_singleton.mp member
        trivial

/-- A job that is started in the directory is refused by its start. -/
theorem runs_started_config {startup : Program (Except LaunchError Unit × List Handle)}
    {next : List Handle → Run Unit} (fine : ∀ handles, Accepts (next handles))
    (ran : Runs (start startup >>= next).run exchanges (.error (.failed (.config fault)))) :
    ∃ handles, Runs startup exchanges (.error (.config fault), handles) := by
  obtain ⟨_, same, stopped⟩ | ⟨_, _, handles, -, -, after⟩ := runs_run_bind.mp ran
  · cases same
    obtain ⟨_, same, -⟩ | ⟨error, handles, same, started⟩ := runs_start stopped
    · cases same
    · cases same
      exact ⟨handles, started⟩
  · exact (fine handles _ _ after).elim

/-- A process that is started directly is never refused. -/
theorem accepts_runDirectly : Accepts (runDirectly config context passes) := by
  refine (accepts_report _ _).bind fun _ => Accepts.bind ?_ fun pid => ?_
  · refine accepts_attempt fun exchanges error ran => ?_
    obtain ⟨answer, _, -, done⟩ := runs_ask.mp ran
    cases answer with
    | ok pid => cases (runs_pure.mp done).2
    | error cause =>
      cases (runs_pure.mp done).2
      exact fun ⟨_, same⟩ => LaunchError.noConfusion same
  · exact accepts_supervise.bind fun _ => accepts_pure _

/-- **A collective job is refused only with its topology.** -/
theorem runCollective_config (ran : Runs (runCollective config context passes).run exchanges
      (.error (.failed (.config fault)))) :
    (config.collectiveTopology context.node).result = .error (.config fault) ∧
      attempts exchanges = [] := by
  obtain ⟨_, same, failed⟩ | ⟨_, _, ⟨cluster, index⟩, -, -, after⟩ := runs_run_bind.mp ran
  · cases same
    obtain ⟨answer, told, same⟩ := runs_attempt failed
    obtain ⟨reports, rfl⟩ := ofNoted_reports told
    refine ⟨?_, reports.idle.attempts⟩
    cases refused : (config.collectiveTopology context.node).result with
    | ok topology => rw [refused] at same; cases same
    | error error => rw [refused] at same; cases same; rfl
  · obtain ⟨directory, _, during, _, -, -, -, inside⟩ := runs_withRendezvous_config after
    obtain ⟨handles, started⟩ := runs_started_config
      (fun _ => accepts_supervise.bind fun _ => accepts_report _ _) inside
    exact (Launcher.runs_startTrainers_config started).elim

/-- The local pod of a parameter-server job has a heter worker, `first` before all others, and the
node has no device for it. -/
structure Underequipped (config : LaunchConfig) (node : Node) (pod : Pod) (first : RoleProcess) :
    Prop where
  kind : config.kind = .parameterServer
  unplaced : isPlaced config node = false
  derived : ∃ cluster index, (config.topology node).result = .ok (cluster, index) ∧
    podAt cluster index = pod
  heterWorker : pod.heterWorkers.head? = some first
  deviceless : Devices.detect config.heterWorkerDevice node.environment node.deviceFiles = 0

/-- **A parameter-server job is refused with its topology or at its first heter worker.** -/
theorem runServers_config (kind : config.kind = .parameterServer)
    (unplaced : isPlaced config context.node = false)
    (ran : Runs (runServers config context passes).run exchanges
      (.error (.failed (.config fault)))) :
    (config.topology context.node).result = .error (.config fault) ∧ attempts exchanges = [] ∨
      ∃ pod first, Underequipped config context.node pod first ∧
        fault = .heterWorkerWithoutDevice first.rank config.heterWorkerDevice ∧
        attempts exchanges = List.range (pod.servers.length + pod.trainers.length) ∧
        ∀ child ∈ attempts exchanges, ∃ exchange ∈ exchanges, exchange.request = .kill child := by
  have result : (config.topology context.node).result =
      config.serverDescription.build context.node.resolver := by
    rw [LaunchConfig.topology_result, kind]
  obtain ⟨_, same, failed⟩ | ⟨before, rest, ⟨cluster, index⟩, rfl, built, after⟩ :=
    runs_run_bind.mp ran
  · cases same
    obtain ⟨answer, nothing, same⟩ := runs_attempt failed
    obtain ⟨rfl, rfl⟩ := runs_pure.mp nothing
    refine .inl ⟨?_, rfl⟩
    cases refused : config.serverDescription.build context.node.resolver with
    | ok topology => rw [refused] at same; cases same
    | error error => rw [refused] at same; cases same; rwa [result]
  · obtain ⟨answer, nothing, same⟩ := runs_attempt built
    obtain ⟨rfl, rfl⟩ := runs_pure.mp nothing
    cases derived : config.serverDescription.build context.node.resolver with
    | error error => rw [derived] at same; cases same
    | ok topology =>
      rw [derived] at same
      cases same
      obtain ⟨directory, early, during, late, rfl, quiet, idle, inside⟩ :=
        runs_withRendezvous_config after
      obtain ⟨handles, started⟩ := runs_started_config
        (fun _ => accepts_supervise.bind fun _ => accepts_stopServers) inside
      obtain ⟨none, ⟨first, others, heterWorkers, named⟩, numbers, killed⟩ :=
        Launcher.runs_startServerRoles_config started
      rw [List.nil_append, attempts_append, attempts_append, quiet.attempts, idle.attempts,
        List.nil_append, List.append_nil]
      refine .inr ⟨podAt cluster index, first, ⟨kind, unplaced, ?_, ?_, none⟩, named, ?_, ?_⟩
      · exact ⟨cluster, index, result.trans derived, rfl⟩
      · rw [heterWorkers, List.head?_cons]
      · rw [numbers, List.range_eq_range']
        rfl
      · intro child member
        obtain ⟨exchange, there, kills⟩ := killed child member
        exact ⟨exchange, List.mem_append_right _ (List.mem_append_left _ there), kills⟩

/-- **The two ways in which a job is refused because of its description.** Either there is no
topology, and nothing was to be started. Or the local pod has a heter worker for which there is no
device: by then all servers and workers of the pod have been started, and they are stopped by
force. -/
theorem launch_refused (ran : Runs (launch config context passes).run exchanges
      (.error (.failed (.config fault)))) :
    (config.topology context.node).result = .error (.config fault) ∧ attempts exchanges = [] ∨
      ∃ pod first, Underequipped config context.node pod first ∧
        fault = .heterWorkerWithoutDevice first.rank config.heterWorkerDevice ∧
        attempts exchanges = List.range (pod.servers.length + pod.trainers.length) ∧
        ∀ child ∈ attempts exchanges, ∃ exchange ∈ exchanges, exchange.request = .kill child := by
  obtain ⟨_, -, stopped⟩ | ⟨told, rest, _, rfl, reported, after⟩ := runs_run_bind.mp ran
  · cases (runs_report stopped).2
  have quiet := (runs_report reported).1
  rw [attempts_append, quiet.attempts, List.nil_append]
  cases kind : config.kind with
  | collective =>
    rw [kind] at after
    rw [LaunchConfig.topology_result, kind]
    exact .inl (runCollective_config after)
  | parameterServer =>
    rw [kind] at after
    dsimp only at after
    split at after
    · exact (accepts_runDirectly _ _ after).elim
    · rename_i unplaced
      refine (runServers_config kind (Bool.eq_false_iff.mpr unplaced) after).imp_right ?_
      rintro ⟨pod, first, underequipped, named, numbers, killed⟩
      refine ⟨pod, first, underequipped, named, numbers, fun child member => ?_⟩
      obtain ⟨exchange, inside, kills⟩ := killed child member
      exact ⟨exchange, List.mem_append_right _ inside, kills⟩

/-- A machine on which every process runs on. -/
def patientMachine : Stage := .initial .empty [] (.plain none 0)

/-- What is said when a collective job finds no device. -/
def devicelessJob : List Exchange :=
  (launch (.ofScript "train.py") bareContext 1).run.transcript Stage.host patientMachine

theorem launch_refused_devicelessJob : attempts devicelessJob = [] := by
  have refused : ((launch (.ofScript "train.py") bareContext 1).run.run
      Stage.host patientMachine).1 = .error (.failed (.config .noDevices)) := by decide +kernel
  have ran := runs_transcript Stage.host (launch (.ofScript "train.py") bareContext 1).run
    patientMachine
  rw [refused] at ran
  rcases launch_refused ran with ⟨-, nothing⟩ | ⟨_, _, ⟨kind, -, -, -, -⟩, -⟩
  · exact nothing
  · cases kind

/-- A job with a server, a worker and a heter worker, all of them on our node. -/
def heterJob : LaunchConfig :=
  { LaunchConfig.ofScript "train.py" with
    mode := .psHeter
    servers := ⟨some 1, none⟩
    workers := ⟨some 1, none⟩
    heterWorkers := ⟨some 1, none⟩ }

theorem launch_refused_late :
    ((launch heterJob bareContext 1).run.run Stage.host patientMachine).1 =
        .error (.failed (.config (.heterWorkerWithoutDevice 0 .gpu))) ∧
      spawned ((launch heterJob bareContext 1).run.transcript Stage.host patientMachine) =
        [0, 1] := by
  decide +kernel

end Refusal

end Job

end TrainingLauncher
