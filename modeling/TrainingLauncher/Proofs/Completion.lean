/-
What the observer has received when a supervision ends well. The last pass reads the log of the
first trainer once more, before it polls the trainer, and no pass comes after it: what this pass may
not take, or what comes later, is never forwarded.

* `Watchdog.Rounds.logOpen`, `Watchdog.Rounds.course`: the complete rounds before the last pass.
* `Watchdog.runUntil_reads`: the last read of a supervision that ends well.
* `Watchdog.runUntil_forwards`: how far the log has been forwarded, and when this is all of it.
-/

import TrainingLauncher.Proofs.Tailing

namespace TrainingLauncher

open Program

namespace Supervision

section Logs

variable {keepsAlive : Role → Bool} {handles : List Handle} {exchanges : List Exchange}

theorem runs_forwardLog_logOpen {handle forwarded : Handle}
    (ran : Runs (forwardLog handle) exchanges forwarded) : forwarded.logOpen = handle.logOpen := by
  cases observed : handle.isObserved with
  | false =>
    obtain ⟨-, rfl⟩ := runs_forwardLog_unobserved observed ran
    rfl
  | true =>
    obtain ⟨pulling, told, result, rfl, pull, -⟩ := runs_forwardLog_observed observed ran
    cases LogTail.pulled_of_runs pull <;> rfl

theorem runs_survey_logOpen {outcome : Except IoError Survey × List Handle}
    (ran : Runs (survey keepsAlive handles) exchanges outcome) :
    outcome.2.map Handle.logOpen = handles.map Handle.logOpen := by
  induction handles generalizing exchanges outcome with
  | nil =>
    obtain ⟨-, rfl⟩ := runs_pure.mp ran
    rfl
  | cons handle rest ih =>
    obtain ⟨first, forwarded, forwarding, ending⟩ := runs_survey_cons ran
    have same := runs_forwardLog_logOpen forwarding
    obtain ⟨error, -, rfl⟩ | ⟨status, told, later, others, -, -, survey, left, -⟩ := ending
    · rw [List.map_cons, List.map_cons, same]
    · rw [left, List.map_cons, List.map_cons, same, ih survey]

/-- A pass neither opens nor closes a log. -/
theorem runs_pass_logOpen {nranks : Nat} {outcome : Except LaunchError Bool × List Handle}
    (ran : Runs (pass keepsAlive nranks handles) exchanges outcome) :
    outcome.2.map Handle.logOpen = handles.map Handle.logOpen := by
  obtain ⟨found, surveyed, -⟩ := runs_pass_survey ran
  exact runs_survey_logOpen surveyed

end Logs

end Supervision

namespace Watchdog

open Supervision

section Rounds

variable {watchdog : Watchdog} {keepsAlive : Role → Bool} {nranks count : Nat}
  {handles current left : List Handle} {exchanges later : List Exchange}

/-- Rounds neither open nor close a log. -/
theorem Rounds.logOpen
    (rounds : watchdog.Rounds keepsAlive nranks count handles exchanges current) :
    current.map Handle.logOpen = handles.map Handle.logOpen := by
  induction rounds with
  | none handles => rfl
  | one _ passed _ ih => exact ih.trans (runs_pass_logOpen passed)

/-- After a start and complete rounds all logs are open. -/
theorem Rounds.opened {launcher : Launcher} {directory : String} {cluster : Cluster} {pod : Pod}
    {starting : List Exchange} (kept : launcher.logDir = some directory)
    (starts : launcher.StartsPod cluster pod starting handles)
    (rounds : watchdog.Rounds keepsAlive nranks count handles exchanges current) :
    ∀ handle ∈ current, handle.logOpen = true := by
  rw [← List.forall_mem_map (P := fun opened => opened = true), rounds.logOpen, List.forall_mem_map]
  exact fun handle member => ((starts.opened kept).2 handle member).logOpen

/-- Rounds are a part of what may become of processes. -/
theorem Rounds.course
    (rounds : watchdog.Rounds keepsAlive nranks count handles exchanges current)
    (rest : Course current later left) : Course handles (exchanges ++ later) left := by
  induction rounds with
  | none handles => exact rest
  | @one count handles between current checked during others unflagged passed _ ih =>
    rw [List.append_assoc, List.append_assoc]
    refine .still (isInterrupted_silent unflagged) (.passed passed ?_)
    have slept : Course between ([⟨.sleep watchdog.interval, ()⟩] ++ (others ++ later)) left :=
      .still (fun exchange member => List.mem_singleton.mp member ▸ trivial) (ih rest)
    exact slept

end Rounds

section Completion

variable {launcher : Launcher} {directory : String} {cluster : Cluster} {pod : Pod}
  {watchdog : Watchdog} {keepsAlive : Role → Bool} {nranks passes : Nat}
  {starting watching : List Exchange} {handles left : List Handle} {worker : Handle}
  {content : ByteArray} {events : List Event}

/-- **The last read of a supervision that ends well.** The last pass reads the log of the first
trainer, from the place up to which the observer has received it. -/
theorem runUntil_reads (kept : launcher.logDir = some directory)
    (starts : launcher.StartsPod cluster pod starting handles)
    (ran : Runs (watchdog.runUntil keepsAlive nranks passes handles) watching (.ok (), left))
    (told : exchanged events = starting ++ watching)
    (faithful : Faithful (Launcher.logFile directory (.trainer, 0)) content events)
    (willing : Willing watching) (member : worker ∈ left) (seat : worker.seat = (.trainer, 0)) :
    ∃ length earlier later place answer,
      BeganAt launcher directory starting worker length ∧ length ≤ place ∧
      place ≤ (content ++ grown earlier).size ∧
      LogTail.LastRead (Launcher.logFile directory (.trainer, 0)) place answer earlier later
        events ∧
      delivered (exchanged events) = (content ++ grown events).extract length
        (LogTail.reach place (content ++ grown earlier) answer) := by
  obtain ⟨count, before, current, ending, rfl, rounds, ⟨-, -, same⟩ | ⟨-, ends⟩⟩ :=
    runs_runUntil ran
  · cases same
  cases ends with
  | @finished checked during left unflagged passed =>
    have split : exchanged events = (starting ++ (before ++ checked)) ++ during := by
      rw [told]
      simp only [List.append_assoc]
    obtain ⟨early, late, rfl, sofar, lately, shown, rest⟩ := faithful.split split
    rw [← List.append_assoc] at willing
    obtain ⟨well, fine⟩ := willing_append.mp willing
    have looked : Course current checked current := by
      rw [← List.append_nil checked]
      exact .still (isInterrupted_silent unflagged) (.none _)
    -- where the observer stands before the last pass
    rcases course_state kept starts (rounds.course looked) sofar shown well with
      ⟨elsewhere, -⟩ | ⟨front, back, first, rfl, place, elsewhere, there, length, began, started,
        within, received⟩
    · obtain ⟨original, inside, -, -, seated⟩ := exists_of_bare (runs_pass passed).1 member
      exact (elsewhere original inside (seated.trans seat)).elim
    have opened : first.logOpen = true :=
      rounds.opened kept starts first (List.mem_append_right _ List.mem_cons_self)
    have unobserved : ∀ other ∈ front ++ back, other.isObserved = false :=
      fun other member => Handle.isObserved_of_seat (elsewhere other member)
    rcases pass_reads unobserved (Handle.isObserved_iff.mpr ⟨place, opened⟩) there passed lately
      rest fine with ⟨⟨error, wrong⟩, -⟩ | ⟨earlier, later, answer, ⟨rfl, last⟩, handed, moved⟩
    · cases wrong
    -- the handle that is left is the one of before, moved on to where the read has come
    rw [show left = _ from moved] at member
    obtain rfl := eq_of_seat elsewhere member seat
    have held : content ++ grown (early ++ earlier) = content ++ grown early ++ grown earlier := by
      rw [grown_append, ByteArray.append_assoc]
    refine ⟨length, early ++ earlier, later, first.logOffset, answer, began, started, ?_,
      ⟨?_, last⟩, ?_⟩
    · rw [held]
      exact le_size_append within _
    · simp only [List.append_assoc]
    · rw [exchanged_append, delivered_append, received, lately, handed, held, grown_append,
        ← ByteArray.append_assoc, append_grown_exchange]
      exact LogTail.extract_reach started within answer

/-- **What a supervision that ends well has forwarded**, if the observer never fails. It is the log
of the first trainer, from where it ended when it was opened for this process to where the last read
has come, which the last pass makes before it polls the trainer. This is all of the log exactly when
nothing comes to it after this read, no more than one pull may take was unread by then, and the log
could be read unless nothing was unread. -/
theorem runUntil_forwards (kept : launcher.logDir = some directory)
    (starts : launcher.StartsPod cluster pod starting handles)
    (ran : Runs (watchdog.runUntil keepsAlive nranks passes handles) watching (.ok (), left))
    (told : exchanged events = starting ++ watching)
    (faithful : Faithful (Launcher.logFile directory (.trainer, 0)) content events)
    (willing : Willing watching) (member : worker ∈ left) (seat : worker.seat = (.trainer, 0)) :
    ∃ length earlier later place answer,
      BeganAt launcher directory starting worker length ∧ length ≤ place ∧
      LogTail.LastRead (Launcher.logFile directory (.trainer, 0)) place answer earlier later
        events ∧
      delivered (exchanged events) = (content ++ grown events).extract length
        (LogTail.reach place (content ++ grown earlier) answer) ∧
      (delivered (exchanged events) =
          (content ++ grown events).extract length (content ++ grown events).size ↔
        grown later = .empty ∧ (content ++ grown earlier).size ≤ place + LogTail.pullLimit ∧
          ∀ error, answer = .error error → place = (content ++ grown earlier).size) := by
  obtain ⟨length, earlier, later, place, answer, began, started, within, ⟨rfl, last⟩, received⟩ :=
    runUntil_reads kept starts ran told faithful willing member seat
  refine ⟨length, earlier, later, place, answer, began, started, ⟨rfl, last⟩, received, ?_⟩
  rw [received, append_grown_exchange, ← LogTail.reach_eq_iff within answer (grown later)]
  exact LogTail.extract_eq_rest_iff (Nat.le_trans started (LogTail.le_reach _ _ _))
    (le_size_append (LogTail.reach_le within answer) _)

end Completion

section Solo

/-- A supervision that nobody interrupts. -/
def soloWatchdog : Watchdog := ⟨3000, .standard, false⟩

/-- It supervises the one trainer on a machine with a log, when the trainer has ended well. -/
def soloRun (log : ByteArray) : List Exchange :=
  (soloWatchdog.runUntil (fun _ => true) 1 1 [soloTrainer 0]).transcript
    (stillHost log (some 0) (.ok ())) ()

/-- The trainer is started, writes the log and ends, before the first pass. -/
def soloHistory (log : ByteArray) : List Event :=
  soloStart.map .exchange ++ .growth log :: (soloRun log).map .exchange

theorem soloRun_ends (log : ByteArray) :
    Runs (soloWatchdog.runUntil (fun _ => true) 1 1 [soloTrainer 0]) (soloRun log)
      (.ok (), [soloTrainer (min LogTail.pullLimit log.size)]) := by
  have ran := runs_transcript (stillHost log (some 0) (.ok ()))
    (soloWatchdog.runUntil (fun _ => true) 1 1 [soloTrainer 0]) ()
  have pulled : (LogTail.pull (soloTrainer 0)).run (stillHost log (some 0) (.ok ())) () =
      ((.ok (), soloTrainer (min LogTail.pullLimit log.size)), ()) := by
    rw [LogTail.run_pull_stillHost rfl]
    simp [soloTrainer, ByteArray.size_extract]
  have passed : (pass (fun _ => true) 1 [soloTrainer 0]).run (stillHost log (some 0) (.ok ())) () =
      ((.ok false, [soloTrainer (min LogTail.pullLimit log.size)]), ()) := by
    have observed : (soloTrainer 0).isObserved = true := rfl
    simp only [Supervision.pass, Supervision.survey, Supervision.forwardLog, observed, if_true,
      run_bind, pulled]
    rfl
  have outcome : ((soloWatchdog.runUntil (fun _ => true) 1 1 [soloTrainer 0]).run
      (stillHost log (some 0) (.ok ())) ()).1 =
        (.ok (), [soloTrainer (min LogTail.pullLimit log.size)]) := by
    show ((pass (fun _ => true) 1 [soloTrainer 0] >>= _).run _ ()).1 = _
    rw [run_bind, passed]
    rfl
  rwa [outcome] at ran

theorem exchanged_soloHistory (log : ByteArray) :
    exchanged (soloHistory log) = soloStart ++ soloRun log := by
  rw [soloHistory, exchanged_append, exchanged_growth, exchanged_map_exchange,
    exchanged_map_exchange]

theorem faithful_soloHistory (log : ByteArray) :
    Faithful (Launcher.logFile "log" (.trainer, 0)) .empty (soloHistory log) := by
  refine faithful_append.mpr ⟨faithful_stillHost _, ?_⟩
  rw [grown_map_exchange, ByteArray.append_empty]
  show Faithful _ (ByteArray.empty ++ log) _
  rw [ByteArray.empty_append]
  exact faithful_stillHost _

theorem delivered_soloHistory (log : ByteArray) :
    delivered (exchanged (soloHistory log)) = log.extract 0 (min LogTail.pullLimit log.size) := by
  have there : (soloTrainer 0).logPath = some (Launcher.logFile "log" (.trainer, 0)) := by
    decide +kernel
  have start := @Follows.trainer (Launcher.logFile "log" (.trainer, 0)) 0 log [] [] (soloTrainer 0)
    rfl there (fun _ member => by cases member) (Nat.le_refl _) (Nat.zero_le _)
  have follows := (runUntil_keeps (soloRun_ends log)).follows start (exchanged_map_exchange _)
    (faithful_stillHost _) (willing_stillHost _)
  have received := follows.received List.mem_cons_self rfl
  have nothing : log.extract 0 (soloTrainer 0).logOffset = .empty := ByteArray.extract_same
  rw [nothing, ByteArray.empty_append, grown_map_exchange, ByteArray.append_empty] at received
  rw [exchanged_soloHistory, delivered_append, soloStart_starts.silent, ByteArray.empty_append]
  exact received

theorem runUntil_forwards_solo :
    Runs (soloWatchdog.runUntil (fun _ => true) 1 1 [soloTrainer 0]) (soloRun fiveBytes)
        (.ok (), [soloTrainer 5]) ∧
      ∃ length earlier later place answer,
        BeganAt soloLauncher "log" soloStart (soloTrainer 5) length ∧
        LogTail.LastRead (Launcher.logFile "log" (.trainer, 0)) place answer earlier later
          (soloHistory fiveBytes) ∧
        delivered (exchanged (soloHistory fiveBytes)) =
          (ByteArray.empty ++ grown (soloHistory fiveBytes)).extract length
            (LogTail.reach place (ByteArray.empty ++ grown earlier) answer) := by
  have ran := soloRun_ends fiveBytes
  rw [show min LogTail.pullLimit fiveBytes.size = 5 by decide +kernel] at ran
  obtain ⟨length, earlier, later, place, answer, began, -, read, received, -⟩ :=
    runUntil_forwards rfl soloStart_starts ran (exchanged_soloHistory fiveBytes)
      (faithful_soloHistory fiveBytes) (willing_stillHost _) List.mem_cons_self rfl
  exact ⟨ran, length, earlier, later, place, answer, began, read, received⟩

/-- One byte more than a pull may take. -/
def burst : ByteArray := ⟨Array.replicate (LogTail.pullLimit + 1) 120⟩

/-- The trainer writes so much and ends, and nothing is written after that. The supervision ends
well, and the last byte has not been forwarded. -/
theorem runUntil_leaves_rest :
    soloLauncher.StartsPod (.ofPods [soloPod]) soloPod soloStart [soloTrainer 0] ∧
      Runs (soloWatchdog.runUntil (fun _ => true) 1 1 [soloTrainer 0]) (soloRun burst)
        (.ok (), [soloTrainer LogTail.pullLimit]) ∧
      exchanged (soloHistory burst) = soloStart ++ soloRun burst ∧
      Faithful (Launcher.logFile "log" (.trainer, 0)) .empty (soloHistory burst) ∧
      Willing (soloRun burst) ∧
      delivered (exchanged (soloHistory burst)) = burst.extract 0 LogTail.pullLimit ∧
      delivered (exchanged (soloHistory burst)) ≠ burst := by
  have size : burst.size = LogTail.pullLimit + 1 := Array.size_replicate
  have ran := soloRun_ends burst
  rw [size, Nat.min_eq_left (Nat.le_succ _)] at ran
  have handed := delivered_soloHistory burst
  rw [size, Nat.min_eq_left (Nat.le_succ _)] at handed
  refine ⟨soloStart_starts, ran, exchanged_soloHistory burst, faithful_soloHistory burst,
    willing_stillHost _, handed, fun same => ?_⟩
  have sizes := congrArg ByteArray.size (handed.symm.trans same)
  rw [ByteArray.size_extract, size] at sizes
  omega

end Solo

end Watchdog

end TrainingLauncher
