/-
The supervision as a whole. It is a number of complete rounds, each a look at the flag, a pass that
finds the job alive and a pause, and then an ending: the flag is set, the job is over, or the pass
goes wrong.

* `Watchdog.Rounds`, `Watchdog.Ends`: the rounds and the endings.
* `Watchdog.runs_runUntil`: every supervision is of this form.
* `Watchdog.Rounds.pauses`: so many rounds are so many pauses.
* `Watchdog.Rounds.outcome_of_error`: what a pass that goes wrong does to the supervision.
* `Watchdog.runUntil_guarded`, `Watchdog.runUntil_settled`, `Watchdog.runUntil_ended`: whom a
  supervision signals, and in which state it leaves the processes.
-/

import TrainingLauncher.Proofs.Survey
import TrainingLauncher.Proofs.Termination

namespace TrainingLauncher

open Program

namespace Supervision

variable {policy : TerminationPolicy} {handles : List Handle} {exchanges : List Exchange}

/-- To abort is to terminate; the error stays what it was. -/
theorem runs_abort {error : LaunchError} {outcome : LaunchError × List Handle}
    (ran : Runs (abort policy handles error) exchanges outcome) :
    outcome.1 = error ∧ ∃ stopping rest result, exchanges = stopping ++ rest ∧
      Runs (Termination.run policy handles) stopping (result, outcome.2) ∧ Idle rest := by
  obtain ⟨stopping, rest, ⟨result, closed⟩, rfl, stopped, after⟩ := (runs_bind _ _ _ _).mp ran
  cases result with
  | ok =>
    obtain ⟨rfl, rfl⟩ := runs_pure.mp after
    exact ⟨rfl, stopping, [], _, rfl, stopped, idle_nil⟩
  | error refused =>
    obtain ⟨told, last, _, rfl, reported, done⟩ := (runs_bind _ _ _ _).mp after
    obtain ⟨rfl, rfl⟩ := runs_pure.mp done
    have quiet : Idle told := reported.asked (report_asks _ _ trivial)
    exact ⟨rfl, stopping, _, _, rfl, stopped, quiet.append idle_nil⟩

/-- An abort signals nobody who has shown an exit code just before. -/
theorem runs_abort_guarded {error : LaunchError} {outcome : LaunchError × List Handle}
    (ran : Runs (abort policy handles error) exchanges outcome) : Guarded (calls exchanges) := by
  obtain ⟨-, stopping, rest, result, rfl, stopped, idle⟩ := runs_abort ran
  rw [calls_append, idle.calls, List.append_nil]
  exact Termination.runs_guarded stopped

/-- An abort leaves nobody behind. -/
theorem runs_abort_settled {error : LaunchError} {outcome : LaunchError × List Handle}
    (ran : Runs (abort policy handles error) exchanges outcome) (persistent : 0 < policy.retries) :
    ∀ child ∈ handles.map Handle.child, Settled exchanges child := by
  obtain ⟨-, stopping, rest, result, rfl, stopped, -⟩ := runs_abort ran
  rw [List.forall_mem_map]
  intro handle member
  exact (Termination.runs_settled stopped persistent handle member).mono
    (List.subset_append_left _ _)

/-- An abort does nothing but stop processes. -/
theorem abort_isStopping {error : LaunchError} :
    (abort policy handles error).Asks Request.IsStopping := by
  refine asks_bind (Termination.run_isStopping handles policy) fun (result, closed) => ?_
  cases result with
  | ok => exact asks_pure _
  | error refused => exact asks_bind (report_asks _ _ trivial) fun _ => asks_pure _

/-- A single pass by itself is a pass and, if that goes wrong, an abort. -/
theorem runs_watch_abort {nranks : Nat} {outcome : Except LaunchError Bool × List Handle}
    (ran : Runs (watch policy nranks handles) exchanges outcome) :
    ∃ during after result, exchanges = during ++ after ∧
      Runs (pass (fun _ => true) nranks handles) during result ∧ outcome.1 = result.1 ∧
        (after = [] ∧ outcome.2 = result.2 ∨
          ∃ note error stopping, after = ⟨.report note, ()⟩ :: stopping ∧
            Runs (abort policy result.2 error) stopping (error, outcome.2)) := by
  obtain ⟨during, after, ⟨result, left⟩, rfl, passed, going⟩ := (runs_bind _ _ _ _).mp ran
  refine ⟨during, after, (result, left), rfl, passed, ?_⟩
  cases result with
  | ok alive =>
    obtain ⟨rfl, rfl⟩ := runs_pure.mp going
    exact ⟨rfl, .inl ⟨rfl, rfl⟩⟩
  | error error =>
    obtain ⟨first, second, ⟨same, final⟩, rfl, aborting, done⟩ := (runs_bind _ _ _ _).mp going
    obtain ⟨rfl, rfl⟩ := runs_pure.mp done
    obtain ⟨_, stopping, rfl, aborted⟩ := runs_ask.mp aborting
    obtain rfl := (runs_abort aborted).1
    exact ⟨rfl, .inr ⟨_, _, stopping, List.append_nil _, aborted⟩⟩

end Supervision

namespace Watchdog

variable {watchdog : Watchdog} {keepsAlive : Role → Bool} {nranks : Nat} {handles : List Handle}
  {exchanges : List Exchange}

section Rounds

/-- Only an interruptible launcher looks at the flag, and it does so once. -/
theorem runs_isInterrupted {seen : Bool} (ran : Runs watchdog.isInterrupted exchanges seen) :
    watchdog.interruptible = true ∧ exchanges = [⟨.interrupted, seen⟩] ∨
      watchdog.interruptible = false ∧ exchanges = [] ∧ seen = false := by
  rw [isInterrupted] at ran
  split at ran
  · rename_i looks
    exact .inl ⟨looks, runs_request.mp ran⟩
  · rename_i looks
    exact .inr ⟨by simpa using looks, runs_pure.mp ran⟩

theorem views_isInterrupted {seen : Bool} (ran : Runs watchdog.isInterrupted exchanges seen) :
    calls exchanges = [] ∧ pauses exchanges = [] := by
  rcases runs_isInterrupted ran with ⟨-, rfl⟩ | ⟨-, rfl, -⟩ <;> exact ⟨rfl, rfl⟩

theorem isInterrupted_silent {seen : Bool} (ran : Runs watchdog.isInterrupted exchanges seen) :
    ∀ exchange ∈ exchanges, exchange.request.IsSilent := by
  rcases runs_isInterrupted ran with ⟨-, rfl⟩ | ⟨-, rfl, -⟩
  · exact fun exchange member => List.mem_singleton.mp member ▸ trivial
  · exact fun _ member => by cases member

theorem isInterrupted_unsignalled {seen : Bool}
    (ran : Runs watchdog.isInterrupted exchanges seen) : Unsignalled exchanges := by
  rw [← unsignalled_calls, (views_isInterrupted ran).1]
  exact unsignalled_nil

/-- Complete rounds of a supervision, with the handles before and after them. -/
inductive Rounds (watchdog : Watchdog) (keepsAlive : Role → Bool) (nranks : Nat) :
    Nat → List Handle → List Exchange → List Handle → Prop
  | none (handles : List Handle) : Rounds watchdog keepsAlive nranks 0 handles [] handles
  | one {count : Nat} {handles left current : List Handle} {checked during later : List Exchange}
      (unflagged : Runs watchdog.isInterrupted checked false)
      (passed : Runs (Supervision.pass keepsAlive nranks handles) during (.ok true, left))
      (rest : Rounds watchdog keepsAlive nranks count left later current) :
      Rounds watchdog keepsAlive nranks (count + 1) handles
        (checked ++ (during ++ ⟨.sleep watchdog.interval, ()⟩ :: later)) current

/-- The ways in which a supervision ends that has come to the head of its loop. -/
inductive Ends (watchdog : Watchdog) (keepsAlive : Role → Bool) (nranks : Nat)
    (handles : List Handle) : List Exchange → Except Stop Unit × List Handle → Prop
  /-- The operator has asked the launcher to stop. -/
  | interrupted {checked stopping : List Exchange} {final : List Handle} (note : Note)
      (flagged : Runs watchdog.isInterrupted checked true)
      (aborted : Runs (Supervision.abort watchdog.termination handles .interrupted) stopping
        (.interrupted, final)) :
      Ends watchdog keepsAlive nranks handles (checked ++ ⟨.report note, ()⟩ :: stopping)
        (.error (.failed .interrupted), final)
  /-- No process keeps the job alive any more. -/
  | finished {checked during : List Exchange} {left : List Handle}
      (unflagged : Runs watchdog.isInterrupted checked false)
      (passed : Runs (Supervision.pass keepsAlive nranks handles) during (.ok false, left)) :
      Ends watchdog keepsAlive nranks handles (checked ++ during) (.ok (), left)
  /-- The pass has gone wrong. -/
  | wrong {checked during stopping : List Exchange} {left final : List Handle}
      {error : LaunchError} (note : Note) (unflagged : Runs watchdog.isInterrupted checked false)
      (passed : Runs (Supervision.pass keepsAlive nranks handles) during (.error error, left))
      (aborted : Runs (Supervision.abort watchdog.termination left error) stopping
        (error, final)) :
      Ends watchdog keepsAlive nranks handles
        (checked ++ (during ++ ⟨.report note, ()⟩ :: stopping)) (.error (.failed error), final)

/-- One turn of the loop: the supervision ends, or it goes on after a round. -/
theorem runs_turn {passes : Nat} {outcome : Except Stop Unit × List Handle}
    (ran : Runs (watchdog.runUntil keepsAlive nranks (passes + 1) handles) exchanges outcome) :
    watchdog.Ends keepsAlive nranks handles exchanges outcome ∨
      ∃ checked during left later,
        exchanges = checked ++ (during ++ ⟨.sleep watchdog.interval, ()⟩ :: later) ∧
        Runs watchdog.isInterrupted checked false ∧
        Runs (Supervision.pass keepsAlive nranks handles) during (.ok true, left) ∧
        Runs (watchdog.runUntil keepsAlive nranks passes left) later outcome := by
  rw [runUntil] at ran
  obtain ⟨checked, rest, seen, rfl, looked, after⟩ := (runs_bind _ _ _ _).mp ran
  cases seen with
  | true =>
    obtain ⟨_, stopping, rfl, aborting⟩ := runs_ask.mp after
    obtain ⟨stop, nothing, ⟨error, final⟩, rfl, aborted, done⟩ := (runs_bind _ _ _ _).mp aborting
    obtain ⟨rfl, rfl⟩ := runs_pure.mp done
    obtain rfl := (Supervision.runs_abort aborted).1
    rw [List.append_nil]
    exact .inl (.interrupted _ looked aborted)
  | false =>
    obtain ⟨during, later, ⟨result, left⟩, rfl, passed, going⟩ := (runs_bind _ _ _ _).mp after
    cases result with
    | error error =>
      obtain ⟨first, second, ⟨same, final⟩, rfl, aborting, done⟩ := (runs_bind _ _ _ _).mp going
      obtain ⟨rfl, rfl⟩ := runs_pure.mp done
      obtain ⟨_, stopping, rfl, aborted⟩ := runs_ask.mp aborting
      obtain rfl := (Supervision.runs_abort aborted).1
      rw [List.append_nil]
      exact .inl (.wrong _ looked passed aborted)
    | ok alive =>
      cases alive with
      | false =>
        obtain ⟨rfl, rfl⟩ := runs_pure.mp going
        rw [List.append_nil]
        exact .inl (.finished looked passed)
      | true =>
        obtain ⟨_, others, rfl, again⟩ := runs_ask.mp going
        exact .inr ⟨checked, during, left, others, rfl, looked, passed, again⟩

/-- **Every supervision is some complete rounds and an ending**, unless the passes that it is
allowed are used up before it ends. -/
theorem runs_runUntil {passes : Nat} {outcome : Except Stop Unit × List Handle}
    (ran : Runs (watchdog.runUntil keepsAlive nranks passes handles) exchanges outcome) :
    ∃ count before current ending, exchanges = before ++ ending ∧
      watchdog.Rounds keepsAlive nranks count handles before current ∧
        (count = passes ∧ ending = [] ∧ outcome = (.error .unfinished, current) ∨
          count < passes ∧ watchdog.Ends keepsAlive nranks current ending outcome) := by
  induction passes generalizing handles exchanges with
  | zero =>
    obtain ⟨rfl, rfl⟩ := runs_pure.mp ran
    exact ⟨0, [], handles, [], rfl, .none handles, .inl ⟨rfl, rfl, rfl⟩⟩
  | succ passes ih =>
    rcases runs_turn ran with ends | ⟨checked, during, left, later, rfl, looked, passed, again⟩
    · exact ⟨0, [], handles, exchanges, rfl, .none handles, .inr ⟨Nat.succ_pos _, ends⟩⟩
    · obtain ⟨count, before, current, ending, rfl, rounds, ends⟩ := ih again
      refine ⟨count + 1, _, current, ending, ?_, .one looked passed rounds, ?_⟩
      · simp only [List.append_assoc, List.cons_append]
      · exact ends.imp (And.imp_left (congrArg (· + 1))) (And.imp_left Nat.succ_lt_succ)

variable {count : Nat} {current : List Handle}

/-- Rounds change nothing of a process but how much of its log has been forwarded. -/
theorem Rounds.bare (rounds : watchdog.Rounds keepsAlive nranks count handles exchanges current) :
    current.map Handle.bare = handles.map Handle.bare := by
  induction rounds with
  | none handles => rfl
  | one _ passed _ ih => exact ih.trans (Supervision.runs_pass passed).1

/-- **So many rounds are so many pauses.** -/
theorem Rounds.pauses (rounds : watchdog.Rounds keepsAlive nranks count handles exchanges current) :
    pauses exchanges = List.replicate count watchdog.interval := by
  induction rounds with
  | none handles => rfl
  | one unflagged passed _ ih =>
    have still := Prompt.pauses (passed.asked (Supervision.pass_isPrompt nranks))
    rw [pauses_append, (views_isInterrupted unflagged).2, pauses_append, still,
      List.replicate_succ, ← ih]
    rfl

/-- The process control of rounds consists of polls. -/
theorem Rounds.guarded
    (rounds : watchdog.Rounds keepsAlive nranks count handles exchanges current) :
    Guarded (calls exchanges) := by
  induction rounds with
  | none handles => exact .nil
  | one unflagged passed _ ih =>
    obtain ⟨-, found, polled, -⟩ := Supervision.runs_pass passed
    rw [calls_append, (views_isInterrupted unflagged).1, calls_append]
    exact polled.guarded.append ih

/-- Rounds signal nobody. -/
theorem Rounds.unsignalled
    (rounds : watchdog.Rounds keepsAlive nranks count handles exchanges current) :
    Unsignalled exchanges := by
  induction rounds with
  | none handles => exact unsignalled_nil
  | one unflagged passed _ ih =>
    refine (isInterrupted_unsignalled unflagged).append ?_
    exact (Supervision.pass_unsignalled passed).append (ih.cons rfl)

end Rounds

section Passes

variable {checked during after : List Exchange} {result : Except LaunchError Bool × List Handle}
  {outcome : Except Stop Unit × List Handle}

end Passes

section Children

variable {passes : Nat} {outcome : Except Stop Unit × List Handle}

theorem Ends.guarded (ends : watchdog.Ends keepsAlive nranks handles exchanges outcome) :
    Guarded (calls exchanges) := by
  cases ends with
  | @interrupted checked stopping final note looked aborted =>
    rw [calls_append, (views_isInterrupted looked).1]
    show Guarded (calls stopping)
    exact Supervision.runs_abort_guarded aborted
  | finished looked passed =>
    obtain ⟨-, found, polled, -⟩ := Supervision.runs_pass passed
    rw [calls_append, (views_isInterrupted looked).1]
    exact polled.guarded
  | @wrong checked during stopping left final error note looked passed aborted =>
    obtain ⟨-, found, polled, -⟩ := Supervision.runs_pass passed
    rw [calls_append, (views_isInterrupted looked).1, calls_append]
    refine polled.guarded.append ?_
    show Guarded (calls stopping)
    exact Supervision.runs_abort_guarded aborted

/-- **Whom a supervision signals**: only processes whose poll just before has found no exit code.
It waits for nobody. -/
theorem runUntil_guarded
    (ran : Runs (watchdog.runUntil keepsAlive nranks passes handles) exchanges outcome) :
    Guarded (calls exchanges) := by
  obtain ⟨count, before, current, ending, rfl, rounds, ends⟩ := runs_runUntil ran
  rw [calls_append]
  refine rounds.guarded.append ?_
  obtain ⟨-, rfl, -⟩ | ⟨-, ends⟩ := ends
  · exact .nil
  · exact ends.guarded

theorem Ends.settled {error : LaunchError} {left : List Handle}
    (ends : watchdog.Ends keepsAlive nranks handles exchanges (.error (.failed error), left))
    (persistent : 0 < watchdog.termination.retries) :
    ∀ child ∈ handles.map Handle.child, Settled exchanges child := by
  intro child member
  cases ends with
  | interrupted note looked aborted =>
    refine (Supervision.runs_abort_settled aborted persistent child member).mono
      fun exchange inside => ?_
    exact List.mem_append_right _ (List.mem_cons_of_mem _ inside)
  | wrong note looked passed aborted =>
    rw [← map_child_of_bare (Supervision.runs_pass passed).1] at member
    refine (Supervision.runs_abort_settled aborted persistent child member).mono
      fun exchange inside => ?_
    exact List.mem_append_right _ (List.mem_append_right _ (List.mem_cons_of_mem _ inside))

/-- **A supervision that goes wrong leaves nobody behind**: every process has answered an exit code
or was stopped by force. -/
theorem runUntil_settled {error : LaunchError} {left : List Handle}
    (ran : Runs (watchdog.runUntil keepsAlive nranks passes handles) exchanges
      (.error (.failed error), left))
    (persistent : 0 < watchdog.termination.retries) :
    ∀ child ∈ handles.map Handle.child, Settled exchanges child := by
  obtain ⟨count, before, current, ending, rfl, rounds, ends⟩ := runs_runUntil ran
  obtain ⟨-, -, same⟩ | ⟨-, ends⟩ := ends
  · cases same
  · intro child member
    rw [← map_child_of_bare rounds.bare] at member
    exact (ends.settled persistent child member).mono (List.subset_append_right _ _)

/-- **What a supervision that ends well leaves behind**: everybody who would have kept the job alive
has answered an exit code, and the processes are those that it was given. -/
theorem runUntil_ended {left : List Handle}
    (ran : Runs (watchdog.runUntil keepsAlive nranks passes handles) exchanges (.ok (), left)) :
    left.map Handle.bare = handles.map Handle.bare ∧
      ∀ handle ∈ handles, keepsAlive handle.role → Ended exchanges handle.child := by
  obtain ⟨count, before, current, ending, rfl, rounds, ends⟩ := runs_runUntil ran
  obtain ⟨-, -, same⟩ | ⟨-, ends⟩ := ends
  · cases same
  · cases ends with
    | @finished checked during left looked passed =>
      obtain ⟨same, found, polled, judged⟩ := Supervision.runs_pass passed
      refine ⟨same.trans rounds.bare, fun handle member counts => ?_⟩
      cases found with
      | error error => cases judged
      | ok found =>
        have lifeless : found.alive = false := by
          rw [Supervision.judge] at judged
          split at judged
          · exact (Except.ok.inj judged).symm
          · cases judged
        have ended := (polled.of_bare rounds.bare.symm).ended lifeless member counts
        refine ended.mono fun exchange inside => ?_
        exact List.mem_append_right _ (List.mem_append_right _ (calls_subset during inside))

/-- A supervision watches and stops processes, looks for the flag, and does nothing else. -/
theorem runUntil_isSupervising :
    (watchdog.runUntil keepsAlive nranks passes handles).Asks Request.IsSupervising := by
  induction passes generalizing handles with
  | zero => exact asks_pure _
  | succ passes ih =>
    have looks : watchdog.isInterrupted.Asks Request.IsSupervising := by
      unfold isInterrupted
      split
      · exact asks_request (.inr (.inr rfl))
      · exact asks_pure _
    have stops {handles : List Handle} {error : LaunchError} :
        (Supervision.abort watchdog.termination handles error).Asks Request.IsSupervising :=
      Supervision.abort_isStopping.mono fun _ stopping => .inr (.inl stopping)
    have tells (severity : Severity) (text : String) :
        (Program.report severity text).Asks Request.IsSupervising :=
      report_asks _ _ (.inl trivial)
    refine asks_bind looks fun seen => ?_
    cases seen with
    | true => exact asks_bind (tells _ _) fun _ => asks_bind stops fun _ => asks_pure _
    | false =>
      have watches := (@Supervision.pass_isWatching keepsAlive handles nranks).mono
        fun _ watching => (.inl watching : Request.IsSupervising _)
      refine asks_bind watches fun (result, left) => ?_
      cases result with
      | error error =>
        exact asks_bind (asks_bind (tells _ _) fun _ => stops) fun _ => asks_pure _
      | ok alive =>
        cases alive with
        | true => exact asks_bind (asks_request (.inr (.inl trivial))) fun _ => ih
        | false => exact asks_pure _

/-- A supervision starts nothing. -/
theorem runUntil_spawnsNothing :
    (watchdog.runUntil keepsAlive nranks passes handles).Asks Request.SpawnsNothing :=
  runUntil_isSupervising.mono fun _ => Request.IsSupervising.spawnsNothing

end Children

end Watchdog

end TrainingLauncher
