/-
What a termination does to the processes it is given. It goes over them in sweeps; a sweep polls
every process once and signals, by its own means, those that have shown no exit code.

* `Sweep`: the process control of one sweep, and the processes it has found running.
* `runs_stopAll`, `runs_survivors`: the sweeps of a termination are of this form.
* `runs_guarded`: a termination signals no process but directly after a poll without an exit code.
* `runs_settled`: with at least one kill round, every process has ended or was stopped by force.
-/

import TrainingLauncher.Proofs.Control
import TrainingLauncher.Termination

namespace TrainingLauncher.Termination

open Program

section Sweeps

/-- What a sweep does to a process that has shown no exit code: nothing, or it signals it. -/
def Treats : Option Means → Nat → List Exchange → Prop
  | none, _, treatment => treatment = []
  | some means, child, treatment => ∃ reply, treatment = [means.exchange child reply]

/-- The process control of a sweep over processes, and those of them that it has found running. -/
inductive Sweep (means? : Option Means) : List Handle → List Exchange → List Handle → Prop
  | nil : Sweep means? [] [] []
  | ended (handle : Handle) (code : Int) {rest running : List Handle} {others : List Exchange}
      (sweep : Sweep means? rest others running) :
      Sweep means? (handle :: rest) (⟨.poll handle.child, .ok (some code)⟩ :: others) running
  | running (handle : Handle) (seen : Except IoError (Option Int)) (treatment : List Exchange)
      {rest running : List Handle} {others : List Exchange} (unfinished : exitCode? seen = none)
      (treats : Treats means? handle.child treatment) (sweep : Sweep means? rest others running) :
      Sweep means? (handle :: rest) (⟨.poll handle.child, seen⟩ :: (treatment ++ others))
        (handle :: running)

variable {means? : Option Means} {handles running : List Handle} {exchanges : List Exchange}

/-- A sweep is guarded process control. -/
theorem Sweep.guarded (sweep : Sweep means? handles exchanges running) : Guarded exchanges := by
  induction sweep with
  | nil => exact .nil
  | ended handle code _ ih => exact .poll _ _ ih
  | running handle seen treatment unfinished treats _ ih =>
    cases means? with
    | none =>
      obtain rfl := treats
      exact .poll _ _ ih
    | some means =>
      obtain ⟨reply, rfl⟩ := treats
      exact .signal _ _ means reply unfinished ih

/-- A process that a sweep has not found running has answered an exit code. -/
theorem Sweep.ended_or_running (sweep : Sweep means? handles exchanges running) :
    ∀ handle ∈ handles, Ended exchanges handle.child ∨ handle ∈ running := by
  induction sweep with
  | nil => exact fun _ member => by cases member
  | ended other code _ ih =>
    intro handle member
    rcases List.mem_cons.mp member with rfl | member
    · exact .inl ⟨_, List.mem_cons_self, code, .inl rfl⟩
    · exact (ih handle member).imp_left fun ended => ended.mono (List.subset_cons_self _ _)
  | running other seen treatment _ _ _ ih =>
    intro handle member
    rcases List.mem_cons.mp member with rfl | member
    · exact .inr List.mem_cons_self
    · refine (ih handle member).imp (fun ended => ended.mono fun exchange inside => ?_)
        fun found => List.mem_cons_of_mem _ found
      exact List.mem_cons_of_mem _ (List.mem_append_right _ inside)

/-- A sweep by force stops whomever it has found running. -/
theorem Sweep.killed (sweep : Sweep (some .force) handles exchanges running) :
    ∀ handle ∈ running, ∃ exchange ∈ exchanges, exchange.request = .kill handle.child := by
  induction sweep with
  | nil => exact fun _ member => by cases member
  | ended other code _ ih =>
    intro handle member
    obtain ⟨exchange, inside, kills⟩ := ih handle member
    exact ⟨exchange, List.mem_cons_of_mem _ inside, kills⟩
  | running other seen treatment _ treats _ ih =>
    intro handle member
    obtain ⟨reply, rfl⟩ := treats
    rcases List.mem_cons.mp member with rfl | member
    · exact ⟨_, List.mem_cons_of_mem _ List.mem_cons_self, rfl⟩
    · obtain ⟨exchange, inside, kills⟩ := ih handle member
      exact ⟨exchange, List.mem_cons_of_mem _ (List.mem_cons_of_mem _ inside), kills⟩

/-- After a sweep by force every process is settled. -/
theorem Sweep.settled (sweep : Sweep (some .force) handles exchanges running) :
    ∀ handle ∈ handles, Settled exchanges handle.child := fun handle member =>
  (sweep.ended_or_running handle member).imp_right fun found => sweep.killed handle found

end Sweeps

section Polls

variable {handle : Handle} {handles : List Handle} {exchanges : List Exchange}

/-- A process is polled once, and counts as running when the answer has no exit code. -/
theorem runs_isRunning {running : Bool} (ran : Runs (isRunning handle) exchanges running) :
    ∃ seen rest, exchanges = ⟨.poll handle.child, seen⟩ :: rest ∧ Idle rest ∧
      running = (exitCode? seen).isNone := by
  obtain ⟨seen, rest, rfl, tail⟩ := runs_ask.mp ran
  refine ⟨seen, rest, rfl, ?_⟩
  cases seen with
  | ok status =>
    obtain ⟨rfl, rfl⟩ := runs_pure.mp tail
    exact ⟨idle_nil, rfl⟩
  | error error =>
    obtain ⟨told, later, _, rfl, reported, tail⟩ := (runs_bind _ _ _ _).mp tail
    obtain ⟨rfl, rfl⟩ := runs_pure.mp tail
    rw [List.append_nil]
    exact ⟨reported.asked (report_asks _ _ trivial), rfl⟩

theorem runs_stopOne {means : Means} (ran : Runs (stopOne means handle) exchanges ()) :
    ∃ reply rest, exchanges = means.exchange handle.child reply :: rest ∧ Idle rest := by
  obtain ⟨first, rest, reply, rfl, stopped, tail⟩ := (runs_bind _ _ _ _).mp ran
  rw [runs_stop] at stopped
  subst stopped
  refine ⟨reply, rest, rfl, ?_⟩
  cases reply with
  | ok done =>
    obtain ⟨rfl, -⟩ := runs_pure.mp tail
    exact idle_nil
  | error error => exact tail.asked (report_asks _ _ trivial)

end Polls

section Runs

variable {handles : List Handle} {exchanges : List Exchange}

/-- Stopping all processes is one sweep; the answer is whether it has found one running. -/
theorem runs_stopAll {means : Means} {found : Bool}
    (ran : Runs (stopAll means handles) exchanges found) :
    ∃ running, Sweep (some means) handles (calls exchanges) running ∧ found = !running.isEmpty := by
  induction handles generalizing exchanges found with
  | nil =>
    obtain ⟨rfl, rfl⟩ := runs_pure.mp ran
    exact ⟨[], .nil, rfl⟩
  | cons handle rest ih =>
    rw [stopAll] at ran
    obtain ⟨first, second, alive, rfl, asked, after⟩ := (runs_bind _ _ _ _).mp ran
    obtain ⟨seen, told, rfl, idle, rfl⟩ := runs_isRunning asked
    have polled : calls (⟨.poll handle.child, seen⟩ :: told) = [⟨.poll handle.child, seen⟩] :=
      congrArg _ idle.calls
    rw [calls_append, polled]
    cases status : exitCode? seen with
    | some code =>
      rw [if_neg (by simp [status])] at after
      obtain ⟨running, sweep, rfl⟩ := ih after
      obtain rfl := eq_ok_of_exitCode? status
      exact ⟨running, .ended handle code sweep, rfl⟩
    | none =>
      rw [if_pos (by simp [status])] at after
      obtain ⟨stopping, later, _, rfl, stopped, after⟩ := (runs_bind _ _ _ _).mp after
      obtain ⟨others, last, alive, rfl, swept, done⟩ := (runs_bind _ _ _ _).mp after
      obtain ⟨rfl, rfl⟩ := runs_pure.mp done
      obtain ⟨running, sweep, -⟩ := ih swept
      obtain ⟨reply, complaint, rfl, quiet⟩ := runs_stopOne stopped
      refine ⟨handle :: running, ?_, rfl⟩
      have stopped : calls (means.exchange handle.child reply :: complaint) =
          [means.exchange handle.child reply] := by
        cases means <;> exact congrArg _ quiet.calls
      rw [calls_append, stopped, calls_append, calls_nil, List.append_nil]
      exact .running handle seen [means.exchange handle.child reply] status ⟨reply, rfl⟩ sweep

/-- What is left in the end is one more sweep, which signals nobody. -/
theorem runs_survivors {pids : List Nat} (ran : Runs (survivors handles) exchanges pids) :
    ∃ running, Sweep none handles (calls exchanges) running ∧ pids = running.map Handle.pid := by
  induction handles generalizing exchanges pids with
  | nil =>
    obtain ⟨rfl, rfl⟩ := runs_pure.mp ran
    exact ⟨[], .nil, rfl⟩
  | cons handle rest ih =>
    rw [survivors] at ran
    obtain ⟨first, second, alive, rfl, asked, after⟩ := (runs_bind _ _ _ _).mp ran
    obtain ⟨others, last, left, rfl, swept, done⟩ := (runs_bind _ _ _ _).mp after
    obtain ⟨rfl, rfl⟩ := runs_pure.mp done
    obtain ⟨running, sweep, rfl⟩ := ih swept
    obtain ⟨seen, told, rfl, idle, rfl⟩ := runs_isRunning asked
    have polled : calls (⟨.poll handle.child, seen⟩ :: told) = [⟨.poll handle.child, seen⟩] :=
      congrArg _ idle.calls
    rw [calls_append, polled, calls_append, calls_nil, List.append_nil]
    cases status : exitCode? seen with
    | some code =>
      obtain rfl := eq_ok_of_exitCode? status
      exact ⟨running, .ended handle code sweep, rfl⟩
    | none => exact ⟨handle :: running, .running handle seen [] status rfl sweep, rfl⟩

/-- The process control of some kill rounds is guarded, and after the first of them every process is
settled. -/
theorem runs_killRounds {interval rounds : Nat} {result : Except LaunchError Unit}
    (ran : Runs (killRounds interval handles rounds) exchanges result) :
    Guarded (calls exchanges) ∧
      (0 < rounds → ∀ handle ∈ handles, Settled exchanges handle.child) := by
  induction rounds generalizing exchanges with
  | zero =>
    refine ⟨?_, fun absurd => by cases absurd⟩
    obtain ⟨first, second, pids, rfl, asked, after⟩ := (runs_bind _ _ _ _).mp ran
    obtain ⟨running, sweep, -⟩ := runs_survivors asked
    have quiet : Idle second := by
      cases pids with
      | nil => exact after.asked (asks_bind (report_asks _ _ trivial) fun _ => asks_pure _)
      | cons pid others =>
        exact after.asked (asks_bind (report_asks _ _ trivial) fun _ => asks_pure _)
    rw [calls_append, quiet.calls, List.append_nil]
    exact sweep.guarded
  | succ rounds ih =>
    rw [killRounds] at ran
    obtain ⟨first, second, found, rfl, swept, after⟩ := (runs_bind _ _ _ _).mp ran
    obtain ⟨running, sweep, -⟩ := runs_stopAll swept
    have settled : ∀ handle ∈ handles, Settled (first ++ second) handle.child :=
      fun handle member => (sweep.settled handle member).mono
        (List.Subset.trans (calls_subset first) (List.subset_append_left first second))
    refine ⟨?_, fun _ => settled⟩
    rw [calls_append]
    refine sweep.guarded.append ?_
    cases found with
    | true =>
      obtain ⟨slept, rest, rfl, again⟩ := runs_ask.mp after
      exact (ih again).1
    | false =>
      have quiet : Idle second :=
        after.asked (asks_bind (report_asks _ _ trivial) fun _ => asks_pure _)
      rw [quiet.calls]
      exact .nil

variable {policy : TerminationPolicy} {outcome : Except LaunchError Unit × List Handle}

/-- A termination closes the logs. It asks everybody to stop; if that finds nobody running it is
over, otherwise the kill rounds follow after a pause. -/
theorem runs_run (ran : Runs (run policy handles) exchanges outcome) :
    outcome.2 = handles.map Handle.closeLog ∧
      ∃ asked rest running, exchanges = asked ++ rest ∧
        Sweep (some .ask) handles (calls asked) running ∧
        (running = [] ∧ rest = [] ∧ outcome.1 = .ok () ∨
          ∃ killed, rest = ⟨.sleep policy.grace, ()⟩ :: killed ∧
            Runs (killRounds policy.interval handles policy.retries) killed outcome.1) := by
  obtain ⟨asked, rest, found, rfl, swept, after⟩ := (runs_bind _ _ _ _).mp ran
  obtain ⟨running, sweep, seen⟩ := runs_stopAll swept
  cases found with
  | true =>
    obtain ⟨slept, killed, rfl, resumed⟩ := runs_ask.mp after
    obtain ⟨rounds, last, result, rfl, killing, done⟩ := (runs_bind _ _ _ _).mp resumed
    obtain ⟨rfl, rfl⟩ := runs_pure.mp done
    exact ⟨rfl, asked, _, running, rfl, sweep, .inr ⟨_, rfl, by rwa [List.append_nil]⟩⟩
  | false =>
    obtain ⟨rfl, rfl⟩ := runs_pure.mp after
    exact ⟨rfl, asked, _, running, rfl, sweep, .inl ⟨by simpa using seen, rfl, rfl⟩⟩

/-- **Whom a termination signals.** A process is signalled only directly after a poll of it that has
found no exit code; nobody is waited for. -/
theorem runs_guarded (ran : Runs (run policy handles) exchanges outcome) :
    Guarded (calls exchanges) := by
  obtain ⟨-, asked, rest, running, rfl, sweep, ending⟩ := runs_run ran
  rw [calls_append]
  refine sweep.guarded.append ?_
  rcases ending with ⟨-, rfl, -⟩ | ⟨killed, rfl, killing⟩
  · exact .nil
  · exact (runs_killRounds killing).1

/-- **Whom a termination leaves behind.** With at least one kill round there is nobody: every
process has answered an exit code or was stopped by force. -/
theorem runs_settled (ran : Runs (run policy handles) exchanges outcome)
    (persistent : 0 < policy.retries) : ∀ handle ∈ handles, Settled exchanges handle.child := by
  obtain ⟨-, asked, rest, running, rfl, sweep, ending⟩ := runs_run ran
  intro handle member
  rcases ending with ⟨rfl, -, -⟩ | ⟨killed, rfl, killing⟩
  · have ended := (sweep.ended_or_running handle member).resolve_right List.not_mem_nil
    exact .inl (ended.mono (List.Subset.trans (calls_subset asked) (List.subset_append_left _ _)))
  · refine ((runs_killRounds killing).2 persistent handle member).mono fun exchange inside => ?_
    exact List.mem_append_right _ (List.mem_cons_of_mem _ inside)

end Runs

section Asks

variable (handles : List Handle)

theorem isRunning_isSweep (means? : Option Means) (handle : Handle) :
    (isRunning handle).Asks (Request.IsSweep means?) := by
  refine asks_bind (asks_request trivial) fun answer => ?_
  cases answer with
  | ok status => exact asks_pure _
  | error error => exact asks_bind (report_asks _ _ trivial) fun _ => asks_pure _

/-- To stop all processes takes one sweep. -/
theorem stopAll_isSweep (means : Means) :
    (stopAll means handles).Asks (Request.IsSweep (some means)) := by
  induction handles with
  | nil => exact asks_pure _
  | cons handle rest ih =>
    have stop : (handle.stop means).Asks (Request.IsSweep (some means)) := by
      cases means <;> exact asks_request rfl
    have stopped : (stopOne means handle).Asks (Request.IsSweep (some means)) := by
      refine asks_bind stop fun reply => ?_
      cases reply with
      | ok => exact asks_pure _
      | error error => exact report_asks _ _ trivial
    refine asks_bind (isRunning_isSweep (some means) handle) fun running => ?_
    cases running with
    | true => exact asks_bind stopped fun _ => asks_bind ih fun _ => asks_pure _
    | false => exact ih

/-- To look for survivors takes one sweep, which signals nobody. -/
theorem survivors_isSweep : (survivors handles).Asks (Request.IsSweep none) := by
  induction handles with
  | nil => exact asks_pure _
  | cons handle rest ih =>
    exact asks_bind (isRunning_isSweep none handle) fun _ =>
      asks_bind ih fun _ => asks_pure _

theorem stopAll_isSweeping (means : Means) :
    (stopAll means handles).Asks (Request.IsSweeping means) :=
  (stopAll_isSweep handles means).mono fun _ sweeps =>
    sweeps.sweeping fun _ same => (Option.some.inj same).symm

theorem survivors_isSweeping (means : Means) :
    (survivors handles).Asks (Request.IsSweeping means) :=
  (survivors_isSweep handles).mono fun _ sweeps => sweeps.sweeping fun _ same => by cases same

/-- Kill rounds signal by force only. -/
theorem killRounds_isSweeping (interval rounds : Nat) :
    (killRounds interval handles rounds).Asks (Request.IsSweeping .force) := by
  induction rounds with
  | zero =>
    refine asks_bind (survivors_isSweeping handles .force) fun pids => ?_
    cases pids <;> exact asks_bind (report_asks _ _ trivial) fun _ => asks_pure _
  | succ rounds ih =>
    refine asks_bind (stopAll_isSweeping handles .force) fun found => ?_
    cases found with
    | true => exact asks_bind (asks_request trivial) fun _ => ih
    | false => exact asks_bind (report_asks _ _ trivial) fun _ => asks_pure _

/-- A termination does nothing but stop processes. -/
theorem run_isStopping (policy : TerminationPolicy) :
    (run policy handles).Asks Request.IsStopping := by
  have stops {means : Means} {α : Type} {program : Program α}
      (sweeps : program.Asks (Request.IsSweeping means)) : program.Asks Request.IsStopping :=
    sweeps.mono fun _ => Request.IsSweeping.stopping
  refine asks_bind (stops (stopAll_isSweeping handles .ask)) fun found => ?_
  cases found with
  | true =>
    exact asks_bind (asks_request trivial) fun _ =>
      asks_bind (stops (killRounds_isSweeping handles _ _)) fun _ => asks_pure _
  | false => exact asks_pure _

/-- A termination starts nothing. -/
theorem run_spawnsNothing (policy : TerminationPolicy) :
    (run policy handles).Asks Request.SpawnsNothing :=
  (run_isStopping handles policy).mono fun _ => Request.IsStopping.spawnsNothing

end Asks

end TrainingLauncher.Termination
