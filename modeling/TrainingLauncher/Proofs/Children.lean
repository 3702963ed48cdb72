/-
What a job does to its children. It first starts them and then controls them: it discards them when
the start has gone wrong, and otherwise polls every process before it signals it. When the job is
over, nobody is left behind.

* `Tends`: the control of processes that run, and what has become of them by its end.
* `Job.Cares`: the whole of a job, from the start of the first child on.
* `Job.launch_cares`: every job is of this form.
* `Job.launch_spares_ended`: no child is signalled once it has answered an exit code.
* `Job.launch_settles`: every child that was started has ended or was stopped by force.
-/

import TrainingLauncher.Proofs.Driver
import TrainingLauncher.Proofs.Script

namespace TrainingLauncher.Job

open Program Rehearsal

section Cares

/-- Running processes are looked after: nobody is signalled but directly after a poll without an
exit code, nothing is started, and in the end everybody is settled, if the job `settles` its
processes at all. -/
structure Tends (settles : Prop) (children : List Nat) (exchanges : List Exchange) : Prop where
  guarded : Guarded (calls exchanges)
  nothing : spawned exchanges = []
  settled : settles → ∀ child ∈ children, Settled exchanges child

/-- A job first starts processes and then controls them: it discards or tends them. -/
inductive Cares (settles : Prop) : List Exchange → Prop
  | inVain {children : List Nat} {starting discarding : List Exchange}
      (opens : Launcher.Opens children starting) (nothing : spawned discarding = [])
      (discards : Discards children (calls discarding)) : Cares settles (starting ++ discarding)
  | tended {children : List Nat} {starting tending : List Exchange}
      (opens : Launcher.Opens children starting) (tends : Tends settles children tending) :
      Cares settles (starting ++ tending)

variable {settles : Prop} {children : List Nat} {exchanges idle : List Exchange}

theorem Tends.mono {more : Prop} (tends : Tends settles children exchanges)
    (weaker : more → settles) : Tends more children exchanges :=
  ⟨tends.guarded, tends.nothing, fun holds => tends.settled (weaker holds)⟩

/-- What follows and has nothing to do with processes changes nothing. -/
theorem Tends.before (tends : Tends settles children exchanges) (quiet : Idle idle) :
    Tends settles children (exchanges ++ idle) where
  guarded := by
    rw [calls_append, quiet.calls, List.append_nil]
    exact tends.guarded
  nothing := by rw [spawned_append, tends.nothing, quiet.spawned, List.append_nil]
  settled holds child member :=
    (tends.settled holds child member).mono (List.subset_append_left _ _)

theorem Cares.mono {more : Prop} (cares : Cares settles exchanges) (weaker : more → settles) :
    Cares more exchanges := by
  cases cares with
  | inVain opens nothing discards => exact .inVain opens nothing discards
  | tended opens tends => exact .tended opens (tends.mono weaker)

/-- What comes before and has nothing to do with processes changes nothing, either. -/
theorem Cares.after (cares : Cares settles exchanges) (quiet : Idle idle) :
    Cares settles (idle ++ exchanges) := by
  cases cares with
  | inVain opens nothing discards =>
    rw [← List.append_assoc]
    exact .inVain (opens.after quiet) nothing discards
  | tended opens tends =>
    rw [← List.append_assoc]
    exact .tended (opens.after quiet) tends

theorem Cares.before (cares : Cares settles exchanges) (quiet : Idle idle) :
    Cares settles (exchanges ++ idle) := by
  cases cares with
  | inVain opens nothing discards =>
    rw [List.append_assoc]
    refine .inVain opens ?_ ?_
    · rw [spawned_append, nothing, quiet.spawned, List.append_nil]
    · rwa [calls_append, quiet.calls, List.append_nil]
  | tended opens tends =>
    rw [List.append_assoc]
    exact .tended opens (tends.before quiet)

/-- A job that neither starts nor controls a process. -/
theorem Cares.of_opens (opens : Launcher.Opens [] exchanges) : Cares settles exchanges := by
  rw [← List.append_nil exchanges]
  exact .inVain opens rfl .nil

theorem Cares.of_idle (quiet : Idle exchanges) : Cares settles exchanges :=
  .of_opens (.of_idle quiet)

/-- A start that has gone wrong. -/
theorem Cares.of_starts_error {error : LaunchError} {handles : List Handle}
    (starts : Launcher.Starts exchanges (.error error, handles)) : Cares settles exchanges := by
  cases starts with
  | inVain error opens nothing discards => exact .inVain opens nothing discards

/-- A start that has gone well, and the care for those that run. -/
theorem Cares.of_starts {handles : List Handle} {tending : List Exchange}
    (starts : Launcher.Starts exchanges (.ok (), handles))
    (tends : Tends settles (handles.map Handle.child) tending) :
    Cares settles (exchanges ++ tending) := by
  cases starts with
  | all opens => exact .tended opens tends

/-- **A job that cares spares the ended**, on a machine that keeps exit codes. -/
theorem Cares.sparesEnded (cares : Cares settles exchanges) (kept : KeepsExitCodes exchanges) :
    SparesEnded exchanges := by
  rw [← sparesEnded_calls]
  have keeps := kept.calls
  cases cares with
  | inVain opens nothing discards =>
    rw [calls_append, opens.unharmed, List.nil_append]
    exact discards.sparesEnded opens.distinct
  | tended opens tends =>
    rw [calls_append, opens.unharmed, List.nil_append] at keeps ⊢
    exact tends.guarded.sparesEnded keeps

/-- Whoever starts a child before the control begins has all of it afterwards. -/
theorem control_after_spawn {starting controlling before after : List Exchange} {child pid : Nat}
    {command : Command} {environment : Environment} {output : Output}
    (nothing : spawned controlling = [])
    (split : starting ++ controlling =
      before ++ ⟨.spawn child command environment output, .ok pid⟩ :: after) :
    child ∈ spawned starting ∧ controlling ⊆ after := by
  obtain ⟨more, -, late⟩ | ⟨more, early, rest⟩ := List.append_eq_append_iff.mp split
  · have started := mem_spawned (late ▸ List.mem_append_right more List.mem_cons_self)
    rw [nothing] at started
    cases started
  · cases more with
    | nil =>
      rw [List.nil_append] at rest
      have started := mem_spawned (rest ▸ List.mem_cons_self)
      rw [nothing] at started
      cases started
    | cons first more =>
      obtain ⟨rfl, rfl⟩ := List.cons.inj rest
      rw [early]
      exact ⟨mem_spawned (List.mem_append_right _ List.mem_cons_self),
        List.subset_append_right _ _⟩

/-- **A job that cares settles its children**: whatever comes after the start of one, there is an
exit code or a kill in it. -/
theorem Cares.settled (cares : Cares settles exchanges) (holds : settles)
    {before after : List Exchange} {child pid : Nat} {command : Command}
    {environment : Environment} {output : Output}
    (split : exchanges = before ++ ⟨.spawn child command environment output, .ok pid⟩ :: after) :
    Settled after child := by
  cases cares with
  | inVain opens nothing discards =>
    obtain ⟨started, within⟩ := control_after_spawn nothing split
    rw [opens.started] at started
    exact (discards.settled child started).mono (List.Subset.trans (calls_subset _) within)
  | tended opens tends =>
    obtain ⟨started, within⟩ := control_after_spawn tends.nothing split
    rw [opens.started] at started
    exact (tends.settled holds child started).mono within

/-- A job that cares starts no child twice. -/
theorem Cares.distinct (cares : Cares settles exchanges) : (spawned exchanges).Nodup := by
  cases cares with
  | inVain opens nothing discards =>
    rw [spawned_append, nothing, List.append_nil, opens.started]
    exact opens.distinct
  | tended opens tends =>
    rw [spawned_append, tends.nothing, List.append_nil, opens.started]
    exact opens.distinct

end Cares

section Supervision

variable {watchdog : Watchdog} {keepsAlive : Role → Bool} {nranks passes : Nat}
  {handles : List Handle} {exchanges : List Exchange} {result : Except Stop Unit}

/-- The job has come to its end, and its terminations have kill rounds. -/
def Persists (policy : TerminationPolicy) (result : Except Stop Unit) : Prop :=
  0 < policy.retries ∧ result ≠ .error .unfinished

/-- Processes that are supervised are tended, if those that do not keep the job alive are settled
when it is over. -/
theorem tends_supervise {next : List Handle → Run Unit}
    (rest : ∀ left tending, left.map Handle.bare = handles.map Handle.bare →
      Runs (next left).run tending result →
      Guarded (calls tending) ∧ spawned tending = [] ∧
        (0 < watchdog.termination.retries → ∀ handle ∈ handles, keepsAlive handle.role = false →
          Settled tending handle.child))
    (ran : Runs (supervise (watchdog.runUntil keepsAlive nranks passes handles) >>= next).run
      exchanges result) :
    Tends (Persists watchdog.termination result) (handles.map Handle.child) exchanges := by
  obtain ⟨stop, rfl, stopped⟩ | ⟨during, tending, left, rfl, ended, after⟩ := runs_run_bind.mp ran
  · obtain ⟨_, absurd, -⟩ | ⟨_, final, same, supervised⟩ := runs_supervise stopped
    · cases absurd
    · cases same
      refine ⟨Watchdog.runUntil_guarded supervised,
        spawned_eq_nil (supervised.asked Watchdog.runUntil_spawnsNothing), ?_⟩
      rintro ⟨persistent, finished⟩
      cases stop with
      | unfinished => exact (finished rfl).elim
      | failed error => exact Watchdog.runUntil_settled supervised persistent
  · obtain ⟨final, same, supervised⟩ | ⟨_, _, absurd, -⟩ := runs_supervise ended
    · cases same
      obtain ⟨bare, ended'⟩ := Watchdog.runUntil_ended supervised
      obtain ⟨guarded, nothing, settled⟩ := rest left tending bare after
      refine ⟨?_, ?_, ?_⟩
      · rw [calls_append]
        exact (Watchdog.runUntil_guarded supervised).append guarded
      · rw [spawned_append, nothing, List.append_nil]
        exact spawned_eq_nil (supervised.asked Watchdog.runUntil_spawnsNothing)
      · rintro ⟨persistent, -⟩
        rw [List.forall_mem_map]
        intro handle member
        cases keeps : keepsAlive handle.role with
        | true => exact .inl ((ended' handle member keeps).mono (List.subset_append_left _ _))
        | false =>
          exact (settled persistent handle member keeps).mono (List.subset_append_right _ _)
    · cases absurd

/-- The processes of a parameter-server job are stopped when its workers are done. -/
theorem runs_stopServers {policy : TerminationPolicy}
    (ran : Runs (stopServers policy handles).run exchanges result) :
    Guarded (calls exchanges) ∧ spawned exchanges = [] ∧
      (0 < policy.retries → ∀ child ∈ handles.map Handle.child, Settled exchanges child) := by
  obtain ⟨_, -, stopped⟩ | ⟨told, rest, _, rfl, reported, after⟩ := runs_run_bind.mp ran
  · cases (runs_report stopped).2
  have quiet := (runs_report reported).1
  obtain ⟨stopping, last, outcome, rfl, terminated, idle⟩ : ∃ stopping last outcome,
      rest = stopping ++ last ∧ Runs (Termination.run policy handles) stopping outcome ∧
        Idle last := by
    obtain ⟨_, -, failed⟩ | ⟨trying, last, _, rfl, tried, reporting⟩ := runs_run_bind.mp after
    · obtain ⟨answer, stopping, -⟩ := runs_attempt failed
      obtain ⟨exchanges, nothing, outcome, rfl, terminated, done⟩ := (runs_bind _ _ _ _).mp stopping
      exact ⟨exchanges, nothing, outcome, rfl, terminated, (runs_pure.mp done).1 ▸ idle_nil⟩
    · obtain ⟨answer, stopping, -⟩ := runs_attempt tried
      obtain ⟨exchanges, nothing, outcome, rfl, terminated, done⟩ := (runs_bind _ _ _ _).mp stopping
      obtain ⟨rfl, -⟩ := runs_pure.mp done
      exact ⟨exchanges, last, outcome, by rw [List.append_nil], terminated,
        (runs_report reporting).1⟩
  refine ⟨?_, ?_, ?_⟩
  · rw [calls_append, quiet.calls, calls_append, idle.calls, List.append_nil]
    exact Termination.runs_guarded terminated
  · rw [spawned_append, quiet.spawned, spawned_append, idle.spawned, List.append_nil]
    exact spawned_eq_nil (terminated.asked (Termination.run_spawnsNothing handles policy))
  · intro persistent
    rw [List.forall_mem_map]
    intro handle member
    refine (Termination.runs_settled terminated persistent handle member).mono ?_
    exact List.Subset.trans (List.subset_append_left _ _) (List.subset_append_right _ _)

end Supervision

section Jobs

variable {config : LaunchConfig} {context : JobContext} {passes : Nat} {settles : Prop}
  {exchanges : List Exchange} {result : Except Stop Unit}

/-- Whoever attends to processes tends them. -/
theorem attend_tends {cluster : Cluster} {pod : Pod} {kind : JobKind} {handles : List Handle}
    (ran : Runs (attend context passes cluster pod kind handles).run exchanges result) :
    Tends (Persists context.watchdog.termination result) (handles.map Handle.child) exchanges := by
  cases kind with
  | collective =>
    -- every trainer keeps the job alive, so that all of them have ended when it is over
    refine tends_supervise (fun left reporting _ reported => ?_) ran
    have quiet := (runs_report reported).1
    refine ⟨quiet.calls ▸ .nil, quiet.spawned, fun _ _ _ idle => ?_⟩
    cases idle
  | parameterServer =>
    refine tends_supervise (fun left stopping same stopped => ?_) ran
    obtain ⟨guarded, unspawned, settled⟩ := runs_stopServers stopped
    rw [map_child_of_bare same] at settled
    exact ⟨guarded, unspawned, fun persistent handle member _ =>
      settled persistent _ (List.mem_map_of_mem member)⟩

/-- A driver cares for the processes that it starts. -/
theorem perform_cares {cluster : Cluster} {pod : Pod} {kind : JobKind} {directory : String}
    (ran : Runs (perform config context passes cluster pod kind directory).run exchanges result) :
    Cares (Persists context.watchdog.termination result) exchanges := by
  obtain ⟨_, _, -, failed⟩ | ⟨starting, attending, handles, rfl, started, attended⟩ :=
    runs_perform ran
  · exact .of_starts_error (startup_courses failed).performs.starts
  · exact .of_starts (startup_courses started).performs.starts (attend_tends attended)

/-- The directory to meet in concerns no process. -/
theorem within_cares {cluster : Cluster} {pod : Pod} {kind : JobKind}
    (ran : Runs (withRendezvous (perform config context passes cluster pod kind)).run exchanges
      result) : Cares (Persists context.watchdog.termination result) exchanges := by
  obtain ⟨_, rfl, -⟩ | ⟨directory, during, after, ended, rfl, inside, -, closing⟩ := runs_within ran
  · exact .of_idle fun exchange member => List.mem_singleton.mp member ▸ trivial
  have early : Idle [⟨.createRendezvous rendezvousStem, .ok directory⟩] :=
    fun exchange member => List.mem_singleton.mp member ▸ trivial
  suffices cared : Cares (Persists context.watchdog.termination result) (during ++ after) from
    cared.after early
  obtain ⟨rfl, rfl, rfl⟩ | ⟨finished, removed, rfl⟩ := closing
  · rw [List.append_nil]
    exact perform_cares inside
  · refine Cares.before ?_ fun exchange member => List.mem_singleton.mp member ▸ trivial
    exact (perform_cares inside).mono fun persists => ⟨persists.1, finished⟩

theorem runCollective_cares
    (ran : Runs (runCollective config context passes).run exchanges result) :
    Cares (Persists context.watchdog.termination result) exchanges := by
  obtain ⟨told, rest, rfl, reports, ⟨_, -, rfl, -⟩ | ⟨cluster, index, -, within⟩⟩ :=
    runs_runCollective ran
  · rw [List.append_nil]
    exact .of_idle reports.idle
  · exact (within_cares within).after reports.idle

theorem runServers_cares (ran : Runs (runServers config context passes).run exchanges result) :
    Cares (Persists context.watchdog.termination result) exchanges := by
  obtain ⟨_, -, rfl, -⟩ | ⟨cluster, index, -, within⟩ := runs_runServers ran
  · exact .of_idle idle_nil
  · exact within_cares within

theorem runDirectly_cares (ran : Runs (runDirectly config context passes).run exchanges result) :
    Cares (Persists context.watchdog.termination result) exchanges := by
  obtain ⟨_, -, stopped⟩ | ⟨told, rest, _, rfl, reported, after⟩ := runs_run_bind.mp ran
  · cases (runs_report stopped).2
  refine Cares.after ?_ (runs_report reported).1
  obtain ⟨stop, -, failed⟩ | ⟨first, tending, pid, rfl, begun, supervised⟩ :=
    runs_run_bind.mp after
  · obtain ⟨answer, spawning, refused⟩ := runs_attempt failed
    obtain ⟨first, _, rfl, done⟩ := runs_ask.mp spawning
    obtain ⟨rfl, rfl⟩ := runs_pure.mp done
    cases first with
    | ok pid => cases refused
    | error error => exact .of_opens ⟨rfl, rfl, .nil⟩
  · obtain ⟨answer, spawning, accepted⟩ := runs_attempt begun
    obtain ⟨first, _, rfl, done⟩ := runs_ask.mp spawning
    obtain ⟨rfl, rfl⟩ := runs_pure.mp done
    cases first with
    | error error => cases accepted
    | ok pid =>
      have opens : Launcher.Opens [0]
          [⟨.spawn 0 config.command context.base .inherit, .ok pid⟩] :=
        ⟨rfl, rfl, List.pairwise_singleton ..⟩
      cases accepted
      refine .tended opens (tends_supervise (fun left rest _ ended => ?_) supervised)
      obtain ⟨rfl, -⟩ := runs_pure.mp ended
      exact ⟨.nil, rfl, fun _ _ _ idle => by cases idle⟩

/-- **Every job cares for its children.** -/
theorem launch_cares (ran : Runs (launch config context passes).run exchanges result) :
    Cares (Persists context.watchdog.termination result) exchanges := by
  obtain ⟨_, -, stopped⟩ | ⟨told, rest, _, rfl, reported, after⟩ := runs_run_bind.mp ran
  · cases (runs_report stopped).2
  refine Cares.after ?_ (runs_report reported).1
  cases kind : config.kind with
  | collective =>
    rw [kind] at after
    exact runCollective_cares after
  | parameterServer =>
    rw [kind] at after
    dsimp only at after
    split at after
    · exact runDirectly_cares after
    · exact runServers_cares after

end Jobs

section Laws

variable {config : LaunchConfig} {context : JobContext} {passes : Nat} {exchanges : List Exchange}
  {result : Except Stop Unit}

/-- **No child is signalled once it has ended.** Whatever the description, the surroundings and the
machine are and however long the job has run: no child is asked to stop or stopped by force after it
has answered an exit code to a poll or to somebody who waited for it, if only the machine repeats an
exit code that it has once answered to a poll. No number is given to two children. -/
theorem launch_spares_ended (ran : Runs (launch config context passes).run exchanges result)
    (kept : KeepsExitCodes exchanges) : (spawned exchanges).Nodup ∧ SparesEnded exchanges :=
  ⟨(launch_cares ran).distinct, (launch_cares ran).sparesEnded kept⟩

/-- A collective job with two trainers. -/
def twoTrainers : LaunchConfig :=
  { LaunchConfig.ofScript "train.py" with gpus := some "0,1", startPort := some 7000 }

/-- A launcher that looks for the flag, on a node without an environment. -/
def bareContext : JobContext where
  node := ⟨∅, none, ⟨none, none⟩, [], []⟩
  base := ∅
  watchdog := ⟨3000, .standard, true⟩

/-- A machine on which the first process fails and later ones run on. -/
def failingMachine : Stage := .initial .empty [.plain (some 0) 3] (.plain none 0)

/-- What the job and the machine say to each other. -/
def failingJob : List Exchange :=
  (launch twoTrainers bareContext 1).run.transcript Stage.host failingMachine

theorem launch_spares_ended_failingJob : (spawned failingJob).Nodup ∧ SparesEnded failingJob :=
  launch_spares_ended (runs_transcript Stage.host _ failingMachine)
    (keepsExitCodes_of_told (by decide +kernel))

/-- **No child is left behind.** When a job has come to its end, with whatever result, every child
that was started has answered an exit code since or was stopped by force, if terminations have a
kill round. No number is given to two children. -/
theorem launch_settles (persistent : 0 < context.watchdog.termination.retries)
    (ran : Runs (launch config context passes).run exchanges result)
    (finished : result ≠ .error .unfinished) :
    (spawned exchanges).Nodup ∧
      ∀ before child command environment output pid after,
        exchanges = before ++ ⟨.spawn child command environment output, .ok pid⟩ :: after →
        Settled after child := by
  refine ⟨(launch_cares ran).distinct, ?_⟩
  intro before child command environment output pid after split
  exact (launch_cares ran).settled ⟨persistent, finished⟩ split

theorem launch_settles_failingJob :
    (spawned failingJob).Nodup ∧ ∀ before child command environment output pid after,
      failingJob = before ++ ⟨.spawn child command environment output, .ok pid⟩ :: after →
      Settled after child := by
  have ended : ((launch twoTrainers bareContext 1).run.run Stage.host failingMachine).1 =
      .error (.failed (.roleProcessFailure [⟨.trainer, 0, 3⟩] 2)) := rfl
  refine launch_settles (by decide) (runs_transcript Stage.host _ failingMachine) ?_
  rw [ended]
  exact fun same => by cases same

end Laws

end TrainingLauncher.Job
