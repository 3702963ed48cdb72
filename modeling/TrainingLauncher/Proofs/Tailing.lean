/-
How the observer follows the log of the first local trainer. Nobody else is ever observed. As long
as the observer takes what it is handed, it has received the log from where it ended when the
process was started to where the handle has come; and every pass that gets to the process takes it
further, by as much as a pull may take.

* `Supervision.runs_survey_around`: what a survey does about the logs.
* `Supervision.Follows`, `Supervision.Keeps`: that the observer has received what it should have,
  and that it stays so.
* `Supervision.Course`: the fate of the processes after their start.
* `Supervision.course_follows`: the observer follows the log, whatever happens.
-/

import TrainingLauncher.Proofs.Opening
import TrainingLauncher.Proofs.Rounds

namespace TrainingLauncher

open Program

/-- The request is one of those that a survey makes about a process that is not observed. -/
def Request.IsGlance : Request → Prop
  | report _ | poll _ => True
  | _ => False

theorem Request.IsGlance.silent {request : Request} (glance : request.IsGlance) :
    request.IsSilent := by
  cases request <;> first | exact glance.elim | trivial

/-- Exchanges with which a survey passes by processes that are not observed. -/
def Glances (exchanges : List Exchange) : Prop :=
  ∀ exchange ∈ exchanges, exchange.request.IsGlance

theorem Glances.delivered {exchanges : List Exchange} (glances : Glances exchanges) :
    delivered exchanges = .empty :=
  delivered_eq_empty fun exchange member => (glances exchange member).silent

theorem glances_nil : Glances [] := fun _ member => by cases member

theorem Glances.cons {exchange : Exchange} {exchanges : List Exchange}
    (glances : Glances exchanges) (glance : exchange.request.IsGlance) :
    Glances (exchange :: exchanges) :=
  List.forall_mem_cons.mpr ⟨glance, glances⟩

theorem Glances.append {first second : List Exchange} (one : Glances first)
    (other : Glances second) : Glances (first ++ second) :=
  List.forall_mem_append.mpr ⟨one, other⟩

theorem Handle.isObserved_iff {handle : Handle} :
    handle.isObserved = true ↔ handle.seat = (.trainer, 0) ∧ handle.logOpen = true := by
  simp [isObserved, seat, and_comm]

theorem Handle.isObserved_of_seat {handle : Handle} (elsewhere : handle.seat ≠ (.trainer, 0)) :
    handle.isObserved = false :=
  Bool.eq_false_iff.mpr fun observed => elsewhere (isObserved_iff.mp observed).1

namespace Supervision

section Surveys

variable {keepsAlive : Role → Bool} {handles : List Handle} {exchanges : List Exchange}

/-- Of a process that is not observed no log is looked at. -/
theorem runs_forwardLog_unobserved {handle forwarded : Handle}
    (unobserved : handle.isObserved = false)
    (ran : Runs (forwardLog handle) exchanges forwarded) :
    exchanges = [] ∧ forwarded = handle := by
  rw [forwardLog, if_neg (Bool.eq_false_iff.mp unobserved)] at ran
  exact runs_pure.mp ran

/-- The log of the observed process is pulled. -/
theorem runs_forwardLog_observed {handle forwarded : Handle} (observed : handle.isObserved = true)
    (ran : Runs (forwardLog handle) exchanges forwarded) :
    ∃ pulling told result, exchanges = pulling ++ told ∧
      Runs (LogTail.pull handle) pulling (result, forwarded) ∧ Glances told := by
  rw [forwardLog, if_pos observed] at ran
  obtain ⟨pulling, rest, ⟨result, pulled⟩, rfl, pull, after⟩ := (runs_bind _ _ _ _).mp ran
  cases result with
  | ok =>
    obtain ⟨rfl, rfl⟩ := runs_pure.mp after
    exact ⟨pulling, [], _, rfl, pull, glances_nil⟩
  | error error =>
    have glances : Glances rest :=
      after.asked (asks_bind (report_asks _ _ trivial) fun _ => asks_pure _)
    obtain ⟨_, _, _, rfl, -, done⟩ := (runs_bind _ _ _ _).mp after
    obtain ⟨rfl, rfl⟩ := runs_pure.mp done
    exact ⟨pulling, _, _, rfl, pull, glances⟩

theorem reportFailure_isGlance (status : Option Int) :
    (reportFailure status).Asks Request.IsGlance :=
  (reportFailure_isReport status).mono fun request reports => by
    cases request <;> first | exact reports.elim | trivial

/-- The first process of a survey: its log is looked after and it is polled. That may be refused, or
the survey goes on with the others. -/
theorem runs_survey_cons {handle : Handle} {rest : List Handle}
    {outcome : Except IoError Survey × List Handle}
    (ran : Runs (survey keepsAlive (handle :: rest)) exchanges outcome) :
    ∃ first forwarded, Runs (forwardLog handle) first forwarded ∧
      ((∃ error, exchanges = first ++ [⟨.poll forwarded.child, .error error⟩] ∧
          outcome = (.error error, forwarded :: rest)) ∨
        ∃ status told later others, exchanges =
            first ++ (⟨.poll forwarded.child, .ok status⟩ :: told ++ later) ∧
          Glances told ∧ Runs (survey keepsAlive rest) later others ∧
          outcome.2 = forwarded :: others.2 ∧
          (∀ error, others.1 = .error error → outcome.1 = .error error)) := by
  rw [survey] at ran
  obtain ⟨first, second, forwarded, rfl, forwarding, after⟩ := (runs_bind _ _ _ _).mp ran
  obtain ⟨answer, later, rfl, going⟩ := runs_ask.mp after
  refine ⟨first, forwarded, forwarding, ?_⟩
  cases answer with
  | error error =>
    obtain ⟨rfl, rfl⟩ := runs_pure.mp going
    exact .inl ⟨error, rfl, rfl⟩
  | ok status =>
    obtain ⟨told, others, _, rfl, reported, surveyed⟩ := (runs_bind _ _ _ _).mp going
    obtain ⟨last, nothing, found, rfl, survey, done⟩ := (runs_bind _ _ _ _).mp surveyed
    obtain ⟨rfl, rfl⟩ := runs_pure.mp done
    refine .inr ⟨status, told, last, found, ?_, reported.asked (reportFailure_isGlance status),
      survey, rfl, fun error wrong => ?_⟩
    · rw [List.append_nil]
      rfl
    · show found.1.map _ = _
      rw [wrong]
      rfl

/-- **A survey of processes that are not observed** passes them by. -/
theorem runs_survey_unobserved (unobserved : ∀ handle ∈ handles, handle.isObserved = false)
    {outcome : Except IoError Survey × List Handle}
    (ran : Runs (survey keepsAlive handles) exchanges outcome) :
    Glances exchanges ∧ outcome.2 = handles := by
  induction handles generalizing exchanges outcome with
  | nil =>
    obtain ⟨rfl, rfl⟩ := runs_pure.mp ran
    exact ⟨glances_nil, rfl⟩
  | cons handle rest ih =>
    obtain ⟨elsewhere, others⟩ := List.forall_mem_cons.mp unobserved
    obtain ⟨first, forwarded, forwarding, ending⟩ := runs_survey_cons ran
    obtain ⟨rfl, rfl⟩ := runs_forwardLog_unobserved elsewhere forwarding
    obtain ⟨error, rfl, rfl⟩ | ⟨status, told, later, left, rfl, reported, survey, same, -⟩ := ending
    · exact ⟨glances_nil.cons trivial, rfl⟩
    · obtain ⟨glances, unchanged⟩ := ih others survey
      exact ⟨(reported.append glances).cons trivial, by rw [same, unchanged]⟩

/-- **What a survey does about the logs.** Of the processes around one that may be observed it looks
at no log. It looks after the log of that one, unless an earlier process refuses its poll. -/
theorem runs_survey_around {front back : List Handle} {worker : Handle}
    (unobserved : ∀ other ∈ front ++ back, other.isObserved = false)
    {outcome : Except IoError Survey × List Handle}
    (ran : Runs (survey keepsAlive (front ++ worker :: back)) exchanges outcome) :
    (Glances exchanges ∧ outcome.2 = front ++ worker :: back ∧
        (∃ error, outcome.1 = .error error) ∧
        ∃ other ∈ front, ∃ error, ⟨.poll other.child, .error error⟩ ∈ exchanges) ∨
      ∃ before during after forwarded, exchanges = before ++ (during ++ after) ∧ Glances before ∧
        Glances after ∧ Runs (forwardLog worker) during forwarded ∧
        outcome.2 = front ++ forwarded :: back := by
  induction front generalizing exchanges outcome with
  | nil =>
    obtain ⟨during, forwarded, forwarding, ending⟩ := runs_survey_cons ran
    obtain ⟨error, rfl, rfl⟩ | ⟨status, told, later, left, rfl, reported, survey, same, -⟩ := ending
    · exact .inr ⟨[], during, _, forwarded, rfl, glances_nil, glances_nil.cons trivial, forwarding,
        rfl⟩
    · obtain ⟨glances, unchanged⟩ := runs_survey_unobserved unobserved survey
      refine .inr ⟨[], during, _, forwarded, rfl, glances_nil,
        (reported.append glances).cons trivial, forwarding, ?_⟩
      rw [same, unchanged]
      rfl
  | cons handle front ih =>
    obtain ⟨elsewhere, others⟩ := List.forall_mem_cons.mp unobserved
    obtain ⟨first, passed, forwarding, ending⟩ := runs_survey_cons ran
    obtain ⟨rfl, rfl⟩ := runs_forwardLog_unobserved elsewhere forwarding
    obtain ⟨error, rfl, rfl⟩ | ⟨status, told, later, rest, rfl, reported, survey, same, wrong⟩ :=
      ending
    · exact .inl ⟨glances_nil.cons trivial, rfl, ⟨error, rfl⟩, passed, List.mem_cons_self, error,
        List.mem_cons_self⟩
    · have glances : Glances (⟨.poll passed.child, .ok status⟩ :: told) := reported.cons trivial
      rw [List.nil_append]
      rcases ih others survey with
        ⟨quiet, unchanged, ⟨error, failed⟩, other, member, cause, refused⟩ |
        ⟨before, during, after, forwarded, rfl, quiet, still, forwarding, left⟩
      · refine .inl ⟨glances.append quiet, ?_, ⟨error, wrong error failed⟩, other,
          List.mem_cons_of_mem _ member, cause, List.mem_append_right _ refused⟩
        rw [same, unchanged]
        rfl
      · refine .inr ⟨_, during, after, forwarded, ?_, glances.append quiet, still, forwarding, ?_⟩
        · simp only [List.append_assoc, List.cons_append]
        · rw [same, left]
          rfl

/-- A pass does what its survey does, and what a refused poll comes to is an error. -/
theorem runs_pass_survey {nranks : Nat} {outcome : Except LaunchError Bool × List Handle}
    (ran : Runs (pass keepsAlive nranks handles) exchanges outcome) :
    ∃ found, Runs (survey keepsAlive handles) exchanges (found, outcome.2) ∧
      ∀ error, found = .error error → outcome.1 = .error (.io error) := by
  obtain ⟨first, second, ⟨found, left⟩, rfl, surveyed, after⟩ := (runs_bind _ _ _ _).mp ran
  refine ⟨found, ?_⟩
  cases found with
  | error error =>
    obtain ⟨rfl, rfl⟩ := runs_pure.mp after
    rw [List.append_nil]
    exact ⟨surveyed, fun _ same => by cases same; rfl⟩
  | ok found =>
    obtain ⟨alive, failed⟩ := found
    cases failed with
    | nil =>
      obtain ⟨rfl, rfl⟩ := runs_pure.mp after
      rw [List.append_nil]
      exact ⟨surveyed, fun _ same => by cases same⟩
    | cons one others =>
      obtain ⟨rfl, rfl⟩ := runs_pure.mp after
      rw [List.append_nil]
      exact ⟨surveyed, fun _ same => by cases same⟩

end Surveys

section Following

/-- The observer has received the log of the first trainer from where it ended when the process was
started to where its handle has come. If there is no such trainer, it has received nothing. -/
inductive Follows (path : String) (length : Nat) (log : ByteArray) :
    ByteArray → List Handle → Prop
  | nobody {handles : List Handle} (elsewhere : ∀ handle ∈ handles, handle.seat ≠ (.trainer, 0)) :
      Follows path length log .empty handles
  | trainer {front back : List Handle} {worker : Handle} (seat : worker.seat = (.trainer, 0))
      (there : worker.logPath = some path)
      (elsewhere : ∀ other ∈ front ++ back, other.seat ≠ (.trainer, 0))
      (started : length ≤ worker.logOffset) (within : worker.logOffset ≤ log.size) :
      Follows path length log (log.extract length worker.logOffset) (front ++ worker :: back)

variable {path : String} {length : Nat} {log received : ByteArray}
  {handles left current : List Handle} {exchanges first second : List Exchange}
  {events : List Event}

/-- The next bytes of the log come to the observer, and the handle moves on to where they end. -/
theorem Follows.move {front back : List Handle} {worker : Handle} {stop : Nat}
    (seat : worker.seat = (.trainer, 0)) (there : worker.logPath = some path)
    (elsewhere : ∀ other ∈ front ++ back, other.seat ≠ (.trainer, 0))
    (started : length ≤ worker.logOffset) (within : worker.logOffset ≤ log.size)
    (more : ByteArray) (onward : worker.logOffset ≤ stop) (enough : stop ≤ (log ++ more).size) :
    Follows path length (log ++ more)
      (log.extract length worker.logOffset ++ (log ++ more).extract worker.logOffset stop)
      (front ++ { worker with logOffset := stop } :: back) := by
  rw [← @extract_append_left log more _ _ within,
    ← ByteArray.extract_eq_extract_append_extract _ started onward]
  exact @Follows.trainer path length (log ++ more) front back { worker with logOffset := stop } seat
    there elsewhere (Nat.le_trans started onward) enough

/-- What was received stays what it should be when the log grows. -/
theorem Follows.grow (follows : Follows path length log received handles) (more : ByteArray) :
    Follows path length (log ++ more) received handles := by
  cases follows with
  | nobody elsewhere => exact .nobody elsewhere
  | trainer seat there elsewhere started within =>
    have still := Follows.move seat there elsewhere started within more (Nat.le_refl _)
      (le_size_append within more)
    rwa [ByteArray.extract_same, ByteArray.append_empty] at still

/-- Looking after the log of the trainer takes the observer further. -/
theorem Follows.forwardLog {front back : List Handle} {worker forwarded : Handle}
    (seat : worker.seat = (.trainer, 0)) (there : worker.logPath = some path)
    (elsewhere : ∀ other ∈ front ++ back, other.seat ≠ (.trainer, 0))
    (started : length ≤ worker.logOffset) (within : worker.logOffset ≤ log.size)
    (ran : Runs (forwardLog worker) exchanges forwarded) (told : exchanged events = exchanges)
    (faithful : Faithful path log events) (willing : Willing exchanges) :
    Follows path length (log ++ grown events)
      (log.extract length worker.logOffset ++ delivered exchanges)
      (front ++ forwarded :: back) := by
  cases observed : worker.isObserved with
  | false =>
    obtain ⟨rfl, rfl⟩ := runs_forwardLog_unobserved observed ran
    rw [delivered_nil, ByteArray.append_empty]
    exact (Follows.trainer seat there elsewhere started within).grow _
  | true =>
    obtain ⟨pulling, rest, result, rfl, pull, glances⟩ := runs_forwardLog_observed observed ran
    obtain ⟨early, late, rfl, pulled, -, fine, -⟩ := faithful.split told
    obtain ⟨earlier, later, answer, ⟨rfl, -⟩, handed, moved⟩ :=
      LogTail.pull_reads pull there pulled fine (willing_append.mp willing).1
    have further := Follows.move seat there elsewhere started within (grown earlier)
      (LogTail.le_reach _ _ answer) (LogTail.reach_le (le_size_append within _) answer)
    rw [← handed] at further
    rw [show forwarded = _ from moved, delivered_append, glances.delivered, ByteArray.append_empty,
      grown_append, ← ByteArray.append_assoc, append_grown_exchange]
    exact (further.grow _).grow _

/-- Closing the logs changes nothing of this. -/
theorem Follows.close (follows : Follows path length log received handles) :
    Follows path length log received (handles.map Handle.closeLog) := by
  have elsewhere {handles : List Handle} (away : ∀ handle ∈ handles, handle.seat ≠ (.trainer, 0)) :
      ∀ handle ∈ handles.map Handle.closeLog, handle.seat ≠ (.trainer, 0) :=
    List.forall_mem_map.mpr away
  cases follows with
  | nobody away => exact .nobody (elsewhere away)
  | @trainer front back worker seat there away started within =>
    rw [List.map_append, List.map_cons]
    refine @Follows.trainer path length log _ _ worker.closeLog seat there ?_ started within
    rw [← List.map_append]
    exact elsewhere away

/-- Exchanges after which the processes are the same and the observer still follows the log, if it
has never failed. -/
structure Keeps (path : String) (handles : List Handle) (exchanges : List Exchange)
    (left : List Handle) : Prop where
  bare : left.map Handle.bare = handles.map Handle.bare
  follows : ∀ {length log received events}, Follows path length log received handles →
    exchanged events = exchanges → Faithful path log events → Willing exchanges →
    Follows path length (log ++ grown events) (received ++ delivered exchanges) left

theorem Keeps.trans (one : Keeps path handles first left) (other : Keeps path left second current) :
    Keeps path handles (first ++ second) current := by
  refine ⟨other.bare.trans one.bare,
    fun {length log received events} follows told faithful willing => ?_⟩
  obtain ⟨early, late, rfl, before, after, earlier, later⟩ := faithful.split told
  obtain ⟨fine, well⟩ := willing_append.mp willing
  have reached := one.follows follows before earlier fine
  have further := other.follows reached after later well
  rw [grown_append, delivered_append, ← ByteArray.append_assoc, ← ByteArray.append_assoc]
  exact further

/-- What hands nothing over keeps it so. -/
theorem Keeps.of_silent (silent : ∀ exchange ∈ exchanges, exchange.request.IsSilent) :
    Keeps path handles exchanges handles := by
  refine ⟨rfl, fun {length log received events} follows told faithful willing => ?_⟩
  rw [delivered_eq_empty silent, ByteArray.append_empty]
  exact follows.grow _

theorem Keeps.nil : Keeps path handles [] handles :=
  .of_silent fun _ member => by cases member

theorem Keeps.one (exchange : Exchange) (silent : exchange.request.IsSilent) :
    Keeps path handles [exchange] handles :=
  .of_silent fun _ member => List.mem_singleton.mp member ▸ silent

theorem Keeps.close (keeps : Keeps path handles exchanges left) :
    Keeps path handles exchanges (left.map Handle.closeLog) := by
  refine ⟨?_, fun follows told faithful willing =>
    (keeps.follows follows told faithful willing).close⟩
  rw [List.map_map, ← keeps.bare]
  rfl

variable {keepsAlive : Role → Bool} {nranks : Nat}

/-- **A pass keeps following the log.** -/
theorem Keeps.pass {outcome : Except LaunchError Bool × List Handle}
    (ran : Runs (pass keepsAlive nranks handles) exchanges outcome) :
    Keeps path handles exchanges outcome.2 := by
  refine ⟨(runs_pass ran).1, fun {length log received events} follows told faithful willing => ?_⟩
  obtain ⟨found, surveyed, -⟩ := runs_pass_survey ran
  cases follows with
  | nobody elsewhere =>
    obtain ⟨glances, unchanged⟩ := runs_survey_unobserved
      (fun handle member => Handle.isObserved_of_seat (elsewhere handle member)) surveyed
    rw [glances.delivered, show outcome.2 = handles from unchanged, ByteArray.append_empty]
    exact .nobody elsewhere
  | @trainer front back worker seat there elsewhere started within =>
    have unobserved : ∀ other ∈ front ++ back, other.isObserved = false :=
      fun other member => Handle.isObserved_of_seat (elsewhere other member)
    rcases runs_survey_around unobserved surveyed with ⟨glances, unchanged, -⟩ |
      ⟨before, during, after, forwarded, rfl, quiet, still, forwarding, left⟩
    · rw [glances.delivered, show outcome.2 = _ from unchanged, ByteArray.append_empty]
      exact (Follows.trainer seat there elsewhere started within).grow _
    · -- the log may grow before, during and after the look at it
      obtain ⟨early, later, rfl, -, rest, -, others⟩ := faithful.split told
      obtain ⟨middle, late, rfl, forwardingTold, -, fine, -⟩ := others.split rest
      have well := (willing_append.mp (willing_append.mp willing).2).1
      have further := Follows.forwardLog seat there elsewhere started (le_size_append within _)
        forwarding forwardingTold fine well
      rw [extract_append_left within] at further
      rw [show outcome.2 = _ from left, delivered_append, delivered_append, quiet.delivered,
        still.delivered, ByteArray.empty_append, ByteArray.append_empty, grown_append, grown_append,
        ← ByteArray.append_assoc, ← ByteArray.append_assoc]
      exact further.grow _

variable {policy : TerminationPolicy}

/-- So does an abort, which closes the logs. -/
theorem Keeps.abort {error : LaunchError} {outcome : LaunchError × List Handle}
    (ran : Runs (abort policy handles error) exchanges outcome) :
    Keeps path handles exchanges outcome.2 := by
  have silent : ∀ exchange ∈ exchanges, exchange.request.IsSilent := fun exchange member =>
    (ran.asked abort_isStopping exchange member).silent
  obtain ⟨-, stopping, rest, result, -, stopped, -⟩ := runs_abort ran
  obtain ⟨closed, -⟩ := Termination.runs_run stopped
  rw [show outcome.2 = _ from closed]
  exact (Keeps.of_silent silent).close

/-- So does a single pass, whatever it comes to. -/
theorem Keeps.watch {outcome : Except LaunchError Bool × List Handle}
    (ran : Runs (watch policy nranks handles) exchanges outcome) :
    Keeps path handles exchanges outcome.2 := by
  obtain ⟨during, after, ⟨result, left⟩, rfl, passed, -, ⟨rfl, same⟩ |
    ⟨note, error, stopping, rfl, aborted⟩⟩ := runs_watch_abort ran
  · rw [same, List.append_nil]
    exact .pass passed
  · exact (Keeps.pass passed).trans ((Keeps.one ⟨.report note, ()⟩ trivial).trans (.abort aborted))

end Following

end Supervision

namespace Watchdog

open Supervision

variable {watchdog : Watchdog} {keepsAlive : Role → Bool} {nranks : Nat} {path : String}
  {handles left current : List Handle} {exchanges : List Exchange}

theorem isInterrupted_keeps {seen : Bool} (ran : Runs watchdog.isInterrupted exchanges seen) :
    Keeps path handles exchanges handles :=
  .of_silent (isInterrupted_silent ran)

/-- Complete rounds keep following the log. -/
theorem Rounds.keeps {count : Nat}
    (rounds : watchdog.Rounds keepsAlive nranks count handles exchanges current) :
    Keeps path handles exchanges current := by
  induction rounds with
  | none handles => exact .nil
  | one unflagged passed _ ih =>
    exact (isInterrupted_keeps unflagged).trans
      ((Keeps.pass passed).trans ((Keeps.one ⟨.sleep _, ()⟩ trivial).trans ih))

theorem Ends.keeps {outcome : Except Stop Unit × List Handle}
    (ends : watchdog.Ends keepsAlive nranks handles exchanges outcome) :
    Keeps path handles exchanges outcome.2 := by
  cases ends with
  | interrupted note flagged aborted =>
    exact (isInterrupted_keeps flagged).trans
      ((Keeps.one ⟨.report note, ()⟩ trivial).trans (.abort aborted))
  | finished unflagged passed => exact (isInterrupted_keeps unflagged).trans (.pass passed)
  | wrong note unflagged passed aborted =>
    exact (isInterrupted_keeps unflagged).trans
      ((Keeps.pass passed).trans ((Keeps.one ⟨.report note, ()⟩ trivial).trans (.abort aborted)))

/-- **A supervision keeps following the log**, however it ends. -/
theorem runUntil_keeps {passes : Nat} {outcome : Except Stop Unit × List Handle}
    (ran : Runs (watchdog.runUntil keepsAlive nranks passes handles) exchanges outcome) :
    Keeps path handles exchanges outcome.2 := by
  obtain ⟨count, before, current, ending, rfl, rounds, ⟨-, rfl, rfl⟩ | ⟨-, ends⟩⟩ :=
    runs_runUntil ran
  · rw [List.append_nil]
    exact rounds.keeps
  · exact rounds.keeps.trans ends.keeps

end Watchdog

namespace Supervision

section Courses

/-- What may become of processes: passes, passes that stop all of them when they go wrong, and whole
supervisions, as many as there may be and with anything in between that hands nothing to the
observer. -/
inductive Course : List Handle → List Exchange → List Handle → Prop
  | none (handles : List Handle) : Course handles [] handles
  | still {handles current : List Handle} {during later : List Exchange}
      (silent : ∀ exchange ∈ during, exchange.request.IsSilent)
      (rest : Course handles later current) : Course handles (during ++ later) current
  | passed {keepsAlive : Role → Bool} {nranks : Nat} {handles left current : List Handle}
      {during later : List Exchange} {result : Except LaunchError Bool}
      (ran : Runs (pass keepsAlive nranks handles) during (result, left))
      (rest : Course left later current) : Course handles (during ++ later) current
  | watched {policy : TerminationPolicy} {nranks : Nat} {handles left current : List Handle}
      {during later : List Exchange} {result : Except LaunchError Bool}
      (ran : Runs (watch policy nranks handles) during (result, left))
      (rest : Course left later current) : Course handles (during ++ later) current
  | supervised {watchdog : Watchdog} {keepsAlive : Role → Bool} {nranks passes : Nat}
      {handles left current : List Handle} {during later : List Exchange}
      {result : Except Stop Unit}
      (ran : Runs (watchdog.runUntil keepsAlive nranks passes handles) during (result, left))
      (rest : Course left later current) : Course handles (during ++ later) current

variable {path : String} {handles current : List Handle} {exchanges : List Exchange}

theorem Course.keeps (course : Course handles exchanges current) :
    Keeps path handles exchanges current := by
  induction course with
  | none handles => exact .nil
  | still silent _ ih => exact (Keeps.of_silent silent).trans ih
  | passed ran _ ih => exact (Keeps.pass ran).trans ih
  | watched ran _ ih => exact (Keeps.watch ran).trans ih
  | supervised ran _ ih => exact (Watchdog.runUntil_keeps ran).trans ih

end Courses

section Passes

variable {path : String} {log : ByteArray} {during : List Exchange} {events : List Event}

/-- **What a pass takes from the log.** A pass that no process before the trainer stops by refusing
its poll reads the trainer's log, if it is open. The observer gets what stands there up to where the
pull comes, and the handle moves on to there. -/
theorem pass_reads {keepsAlive : Role → Bool} {nranks : Nat} {front back : List Handle}
    {worker : Handle} {outcome : Except LaunchError Bool × List Handle}
    (unobserved : ∀ other ∈ front ++ back, other.isObserved = false)
    (observed : worker.isObserved = true) (there : worker.logPath = some path)
    (ran : Runs (pass keepsAlive nranks (front ++ worker :: back)) during outcome)
    (told : exchanged events = during) (faithful : Faithful path log events)
    (willing : Willing during) :
    ((∃ error, outcome.1 = .error error) ∧
        ∃ other ∈ front, ∃ error, ⟨.poll other.child, .error error⟩ ∈ during) ∨
      ∃ earlier later answer,
        LogTail.LastRead path worker.logOffset answer earlier later events ∧
        delivered during = (log ++ grown earlier).extract worker.logOffset
          (LogTail.reach worker.logOffset (log ++ grown earlier) answer) ∧
        outcome.2 = front ++ { worker with
          logOffset := LogTail.reach worker.logOffset (log ++ grown earlier) answer } :: back := by
  obtain ⟨found, surveyed, wrong⟩ := runs_pass_survey ran
  rcases runs_survey_around unobserved surveyed with ⟨-, -, ⟨error, failed⟩, refused⟩ |
    ⟨before, forwarding, after, forwarded, rfl, quiet, still, looked, left⟩
  · exact .inl ⟨⟨_, wrong error failed⟩, refused⟩
  · obtain ⟨pulling, notes, result, rfl, pull, glances⟩ := runs_forwardLog_observed observed looked
    obtain ⟨early, rest, rfl, beforeTold, restTold, -, faithful⟩ := faithful.split told
    rw [List.append_assoc] at restTold
    obtain ⟨middle, late, rfl, middleTold, lateTold, faithful, -⟩ := faithful.split restTold
    have fine : Willing pulling :=
      (willing_append.mp (willing_append.mp (willing_append.mp willing).2).1).1
    obtain ⟨earlier, later, answer, ⟨rfl, last⟩, handed, moved⟩ :=
      LogTail.pull_reads pull there middleTold faithful fine
    have sofar : log ++ grown (early ++ earlier) = log ++ grown early ++ grown earlier := by
      rw [grown_append, ByteArray.append_assoc]
    refine .inr ⟨early ++ earlier, later ++ late, answer, ⟨?_, ?_⟩, ?_, ?_⟩
    · simp only [List.append_assoc, List.cons_append]
    · intro exchange member offset limit same
      rw [exchanged_append, lateTold] at member
      rcases List.mem_append.mp member with inside | outside
      · exact last exchange inside offset limit same
      · have glance := glances.append still exchange outside
        rw [same] at glance
        exact glance
    · rw [sofar]
      simp only [delivered_append, quiet.delivered, still.delivered, glances.delivered, handed,
        ByteArray.empty_append, ByteArray.append_empty]
    · rw [sofar]
      exact left.trans (congrArg (fun moved => front ++ moved :: back) moved)

end Passes

section Starts

variable {launcher : Launcher} {directory : String} {cluster : Cluster} {pod : Pod}
  {starting : List Exchange} {handles : List Handle} {content : ByteArray} {events : List Event}

/-- The processes of a list other than one of them. -/
theorem split_of_seats (distinct : (handles.map Handle.seat).Nodup) {worker : Handle}
    (member : worker ∈ handles) : ∃ front back, handles = front ++ worker :: back ∧
      ∀ other ∈ front ++ back, other.seat ≠ worker.seat := by
  obtain ⟨front, back, rfl⟩ := List.append_of_mem member
  refine ⟨front, back, rfl, fun other inside same => ?_⟩
  rw [List.map_append, List.map_cons] at distinct
  have alone := (List.nodup_middle.mp distinct)
  rw [← List.map_append, List.nodup_cons] at alone
  exact alone.1 (same ▸ List.mem_map_of_mem inside)

/-- There is one process in the seat. -/
theorem eq_of_seat {front back : List Handle} {worker first : Handle} {seat : Role × Nat}
    (elsewhere : ∀ other ∈ front ++ back, other.seat ≠ seat)
    (member : worker ∈ front ++ first :: back) (same : worker.seat = seat) : worker = first := by
  rcases List.mem_append.mp member with inside | inside
  · exact (elsewhere worker (List.mem_append_left _ inside) same).elim
  · rcases List.mem_cons.mp inside with rfl | inside
    · rfl
    · exact (elsewhere worker (List.mem_append_right _ inside) same).elim

/-- What was received is the log of the process in the first seat of a trainer. -/
theorem Follows.received {path : String} {length : Nat} {log received : ByteArray}
    {worker : Handle} (follows : Follows path length log received handles)
    (member : worker ∈ handles) (seat : worker.seat = (.trainer, 0)) :
    received = log.extract length worker.logOffset := by
  cases follows with
  | nobody elsewhere => exact (elsewhere worker member seat).elim
  | trainer _ _ elsewhere _ _ => rw [eq_of_seat elsewhere member seat]

/-- A process that is left by what changes only the state of logs was there before. -/
theorem exists_of_bare {left : List Handle} {worker : Handle}
    (same : left.map Handle.bare = handles.map Handle.bare) (member : worker ∈ left) :
    ∃ original ∈ handles, original.child = worker.child ∧ original.pid = worker.pid ∧
      original.seat = worker.seat := by
  obtain ⟨original, placed, same⟩ :=
    List.mem_map.mp (same ▸ @List.mem_map_of_mem _ _ _ _ Handle.bare member)
  refine ⟨original, placed, ?_, ?_, ?_⟩
  · exact show original.bare.child = worker.bare.child from congrArg Handle.child same
  · exact show original.bare.pid = worker.bare.pid from congrArg Handle.pid same
  · exact show original.bare.seat = worker.bare.seat from congrArg Handle.seat same

/-- After a start the observer has yet to receive everything that comes. -/
theorem follows_of_start (kept : launcher.logDir = some directory)
    (starts : launcher.StartsPod cluster pod starting handles) (told : exchanged events = starting)
    (faithful : Faithful (Launcher.logFile directory (.trainer, 0)) content events) :
    ∃ length, Follows (Launcher.logFile directory (.trainer, 0)) length (content ++ grown events)
        .empty handles ∧
      ∀ worker ∈ handles, worker.seat = (.trainer, 0) → worker.logOffset = length := by
  obtain ⟨distinct, opened⟩ := starts.opened kept
  by_cases present : ∃ worker ∈ handles, worker.seat = (.trainer, 0)
  · obtain ⟨worker, member, seat⟩ := present
    obtain ⟨front, back, rfl, elsewhere⟩ := split_of_seats distinct member
    obtain ⟨early, late, length, environment, -, there, -, -⟩ := opened worker member
    have within := (opened worker member).offset_le told (seat ▸ faithful)
    rw [seat] at elsewhere there
    refine ⟨worker.logOffset, ?_, ?_⟩
    · have follows := Follows.trainer seat there elsewhere (Nat.le_refl _) within
      rwa [ByteArray.extract_same] at follows
    · intro other inside same
      rw [eq_of_seat elsewhere inside same]
  · have elsewhere : ∀ handle ∈ handles, handle.seat ≠ (.trainer, 0) :=
      fun handle member seat => present ⟨handle, member, seat⟩
    exact ⟨0, .nobody elsewhere, fun worker member seat => (elsewhere worker member seat).elim⟩

end Starts

section Laws

variable {launcher : Launcher} {directory : String} {cluster : Cluster} {pod : Pod}
  {starting watching : List Exchange} {handles current : List Handle} {content : ByteArray}
  {events : List Event}

/-- Directly before the process was started its log was opened, and it had the length. -/
def BeganAt (launcher : Launcher) (directory : String) (starting : List Exchange)
    (worker : Handle) (length : Nat) : Prop :=
  ∃ early late environment,
    starting = early ++ ⟨.openLog (Launcher.logFile directory worker.seat), .ok length⟩ ::
      ⟨.spawn worker.child launcher.command environment
        (.file (Launcher.logFile directory worker.seat)), .ok worker.pid⟩ :: late

/-- From where the log ended when it was opened for the process to where the handle stands it has
been received. -/
def Receives (launcher : Launcher) (directory : String) (starting : List Exchange)
    (log received : ByteArray) (worker : Handle) : Prop :=
  ∃ length, BeganAt launcher directory starting worker length ∧ length ≤ worker.logOffset ∧
    worker.logOffset ≤ log.size ∧ received = log.extract length worker.logOffset

/-- The state that the course of things has led to: there is no first trainer and nothing was
received, or its log was. -/
theorem course_state (kept : launcher.logDir = some directory)
    (starts : launcher.StartsPod cluster pod starting handles)
    (course : Course handles watching current) (told : exchanged events = starting ++ watching)
    (faithful : Faithful (Launcher.logFile directory (.trainer, 0)) content events)
    (willing : Willing watching) :
    (∀ handle ∈ current, handle.seat ≠ (.trainer, 0)) ∧ delivered (exchanged events) = .empty ∨
      ∃ front back worker, current = front ++ worker :: back ∧ worker.seat = (.trainer, 0) ∧
        (∀ other ∈ front ++ back, other.seat ≠ (.trainer, 0)) ∧
        worker.logPath = some (Launcher.logFile directory (.trainer, 0)) ∧
        Receives launcher directory starting (content ++ grown events)
          (delivered (exchanged events)) worker := by
  obtain ⟨early, late, rfl, first, second, before, after⟩ := faithful.split told
  obtain ⟨length, unseen, places⟩ := follows_of_start kept starts first before
  have keeps : Keeps (Launcher.logFile directory (.trainer, 0)) handles watching current :=
    course.keeps
  have follows := keeps.follows unseen second after willing
  rw [ByteArray.empty_append, ByteArray.append_assoc, ← grown_append] at follows
  have received : delivered (exchanged (early ++ late)) = delivered watching := by
    rw [told, delivered_append, starts.silent, ByteArray.empty_append]
  rw [received]
  generalize delivered watching = handed at follows ⊢
  cases follows with
  | nobody elsewhere => exact .inl ⟨elsewhere, rfl⟩
  | @trainer front back worker seat there elsewhere started within =>
    refine .inr ⟨front, back, worker, rfl, seat, elsewhere, there, ?_⟩
    -- the process is still the one that was started
    have member : worker ∈ front ++ worker :: back := List.mem_append_right _ List.mem_cons_self
    obtain ⟨original, placed, child, pid, seated⟩ := exists_of_bare keeps.bare member
    obtain ⟨begun, rest, _, environment, split, -, -, rfl⟩ :=
      (starts.opened kept).2 original placed
    rw [seated, child, pid, places original placed (seated.trans seat)] at split
    exact ⟨length, ⟨begun, rest, environment, split⟩, started, within, rfl⟩

/-- Events in which the log is read from a place on and the observer gets the next bytes of it: as
many as there are at that moment and as are allowed, if it can be read. -/
def TakesNext (path : String) (place : Nat) (log : ByteArray) (events : List Event) : Prop :=
  ∃ earlier later answer, LogTail.LastRead path place answer earlier later events ∧
    delivered (exchanged events) = (log ++ grown earlier).extract place
      (LogTail.reach place (log ++ grown earlier) answer)

/-- **The observer follows the log of the first trainer.** Whatever becomes of the processes that
were started and whatever the machine answers, an observer that never fails has received the log of
the first local trainer from where it ended when it was opened for this process to where the handle
stands, and nothing else. While the handle has the log open, a pass takes the next bytes of it,
unless a process before the trainer refuses its poll; after that it takes nothing. -/
theorem course_follows (kept : launcher.logDir = some directory)
    (starts : launcher.StartsPod cluster pod starting handles)
    (course : Course handles watching current) (told : exchanged events = starting ++ watching)
    (faithful : Faithful (Launcher.logFile directory (.trainer, 0)) content events)
    (willing : Willing watching) :
    ((∀ handle ∈ current, handle.seat ≠ (.trainer, 0)) → delivered (exchanged events) = .empty) ∧
      ∀ worker ∈ current, worker.seat = (.trainer, 0) →
        Receives launcher directory starting (content ++ grown events)
          (delivered (exchanged events)) worker ∧
        ∀ keepsAlive nranks outcome next,
          Runs (pass keepsAlive nranks current) (exchanged next) outcome →
          (worker.logOpen = false → delivered (exchanged next) = .empty) ∧
          (worker.logOpen = true →
            Faithful (Launcher.logFile directory (.trainer, 0)) (content ++ grown events) next →
            Willing (exchanged next) →
            (∀ front back, current = front ++ worker :: back → ∀ other ∈ front, ∀ error,
              ⟨.poll other.child, .error error⟩ ∉ exchanged next) →
            TakesNext (Launcher.logFile directory (.trainer, 0)) worker.logOffset
              (content ++ grown events) next) := by
  rcases course_state kept starts course told faithful willing with ⟨elsewhere, nothing⟩ |
    ⟨front, back, worker, rfl, seat, elsewhere, there, receives⟩
  · exact ⟨fun _ => nothing, fun worker member seat => (elsewhere worker member seat).elim⟩
  · refine ⟨fun away => (away worker (by simp) seat).elim, fun other member same => ?_⟩
    obtain rfl := eq_of_seat elsewhere member same
    have unobserved : ∀ other ∈ front ++ back, other.isObserved = false :=
      fun other member => Handle.isObserved_of_seat (elsewhere other member)
    refine ⟨receives, fun keepsAlive nranks outcome next ran =>
      ⟨fun closed => ?_, fun opened shown well answered => ?_⟩⟩
    · have dark : other.isObserved = false := Bool.eq_false_iff.mpr fun observed =>
        Bool.noConfusion (closed.symm.trans (Handle.isObserved_iff.mp observed).2)
      obtain ⟨found, surveyed, -⟩ := runs_pass_survey ran
      refine (runs_survey_unobserved ?_ surveyed).1.delivered
      rw [List.forall_mem_append] at unobserved ⊢
      exact unobserved.imp_right fun others => List.forall_mem_cons.mpr ⟨dark, others⟩
    · rcases pass_reads unobserved (Handle.isObserved_iff.mpr ⟨seat, opened⟩) there ran rfl shown
        well with ⟨-, another, inside, error, refused⟩ | ⟨earlier, later, answer, read, handed, -⟩
      · exact (answered front back rfl another inside error refused).elim
      · exact ⟨earlier, later, answer, read, handed⟩

end Laws

section Solo

/-- A node with one trainer. -/
def soloPod : Pod :=
  { Pod.empty 0 "127.0.0.1" with
    trainers := [⟨[0], ⟨"127.0.0.1", 6170⟩, 0⟩]
    devices := [0] }

/-- A launcher that keeps logs. -/
def soloLauncher : Launcher := .new ⟨"python3", ["train.py"]⟩ (some "log") ∅ 0

/-- The start of that trainer. -/
def soloStart : List Exchange :=
  (soloLauncher.startTrainers (.ofPods [soloPod]) soloPod ∅).transcript
    (stillHost .empty none (.ok ())) ()

/-- The trainer, when its log has been forwarded up to a place. -/
def soloTrainer (place : Nat) : Handle where
  child := 0
  pid := 0
  role := .trainer
  rank := 0
  slot := 0
  logPath := some "log/workerlog.0"
  logOpen := true
  logOffset := place

theorem soloStart_starts :
    soloLauncher.StartsPod (.ofPods [soloPod]) soloPod soloStart [soloTrainer 0] := by
  have ran := runs_transcript (stillHost .empty none (.ok ()))
    (soloLauncher.startTrainers (.ofPods [soloPod]) soloPod ∅) ()
  have outcome : ((soloLauncher.startTrainers (.ofPods [soloPod]) soloPod ∅).run
      (stillHost .empty none (.ok ())) ()).1 = (.ok (), [soloTrainer 0]) := by decide +kernel
  rw [outcome] at ran
  exact .inl ⟨∅, ran⟩

/-- A pass over the trainer on a machine with a log, when the trainer runs. -/
def soloPass (place : Nat) (log : ByteArray) : List Exchange :=
  (pass (fun _ => true) 1 [soloTrainer place]).transcript (stillHost log none (.ok ())) ()

/-- The trainer is started, writes something, and is looked after in a pass. -/
def soloEvents : List Event :=
  soloStart.map .exchange ++ .growth fiveBytes :: (soloPass 0 fiveBytes).map .exchange

theorem soloEvents_faithful :
    Faithful (Launcher.logFile "log" (.trainer, 0)) .empty soloEvents := by
  decide +kernel

theorem course_follows_solo :
    Course [soloTrainer 0] (soloPass 0 fiveBytes) [soloTrainer 5] ∧
      Receives soloLauncher "log" soloStart (ByteArray.empty ++ grown soloEvents)
        (delivered (exchanged soloEvents)) (soloTrainer 5) ∧
      TakesNext (Launcher.logFile "log" (.trainer, 0)) 5 (ByteArray.empty ++ grown soloEvents)
        (.growth fiveBytes :: (soloPass 5 (fiveBytes ++ fiveBytes)).map .exchange) := by
  have ran := runs_transcript (stillHost fiveBytes none (.ok ()))
    (pass (fun _ => true) 1 [soloTrainer 0]) ()
  have outcome : ((pass (fun _ => true) 1 [soloTrainer 0]).run
      (stillHost fiveBytes none (.ok ())) ()).1 = (.ok true, [soloTrainer 5]) := by decide +kernel
  rw [outcome] at ran
  have course : Course [soloTrainer 0] (soloPass 0 fiveBytes) [soloTrainer 5] := by
    rw [← List.append_nil (soloPass 0 fiveBytes)]
    exact .passed ran (.none _)
  have told : exchanged soloEvents = soloStart ++ soloPass 0 fiveBytes := by
    simp [soloEvents]
  obtain ⟨receives, takes⟩ := (course_follows rfl soloStart_starts course told soloEvents_faithful
    (willing_stillHost _)).2 (soloTrainer 5) List.mem_cons_self rfl
  obtain ⟨result, again⟩ : ∃ result, Runs (pass (fun _ => true) 1 [soloTrainer 5])
      (soloPass 5 (fiveBytes ++ fiveBytes)) result := ⟨_, runs_transcript _ _ ()⟩
  have later : exchanged (.growth fiveBytes ::
      (soloPass 5 (fiveBytes ++ fiveBytes)).map .exchange) =
        soloPass 5 (fiveBytes ++ fiveBytes) := by
    rw [exchanged_growth, exchanged_map_exchange]
  refine ⟨course, receives, (takes (fun _ => true) 1 result _ (by rwa [later])).2 rfl
    (by decide +kernel) (by rw [later]; exact willing_stillHost _) ?_⟩
  intro front back alone other member
  cases front with
  | nil => cases member
  | cons first rest =>
    obtain ⟨-, empty⟩ := List.cons.inj alone
    simp at empty

/-- The trainer, when its log was closed. -/
def soloClosed : Handle := { soloTrainer 5 with logOpen := false }

/-- A pass over a handle of the trainer, when it has failed. -/
def soloWatch (handle : Handle) (log : ByteArray) : List Exchange :=
  (watch .standard 1 [handle]).transcript (stillHost log (some 3) (.ok ())) ()

/-- The trainer fails, and a pass closes its log. What comes to the log then is left unread by the
next pass. -/
theorem closed_log_unread :
    soloLauncher.StartsPod (.ofPods [soloPod]) soloPod soloStart [soloTrainer 0] ∧
      Runs (watch .standard 1 [soloTrainer 0]) (soloWatch (soloTrainer 0) fiveBytes)
        (.error (.roleProcessFailure [⟨.trainer, 0, 3⟩] 1), [soloClosed]) ∧
      Runs (watch .standard 1 [soloClosed]) (soloWatch soloClosed (fiveBytes ++ fiveBytes))
        (.error (.roleProcessFailure [⟨.trainer, 0, 3⟩] 1), [soloClosed]) ∧
      Faithful (Launcher.logFile "log" (.trainer, 0)) .empty (soloStart.map .exchange ++
        .growth fiveBytes :: (soloWatch (soloTrainer 0) fiveBytes).map .exchange ++
        .growth fiveBytes :: (soloWatch soloClosed (fiveBytes ++ fiveBytes)).map .exchange) ∧
      Willing (soloWatch (soloTrainer 0) fiveBytes ++
        soloWatch soloClosed (fiveBytes ++ fiveBytes)) ∧
      delivered (soloWatch (soloTrainer 0) fiveBytes) = fiveBytes ∧
      delivered (soloWatch soloClosed (fiveBytes ++ fiveBytes)) = .empty ∧
      min LogTail.pullLimit ((fiveBytes ++ fiveBytes).size - soloClosed.logOffset) = 5 := by
  have first := runs_transcript (stillHost fiveBytes (some 3) (.ok ()))
    (watch .standard 1 [soloTrainer 0]) ()
  have second := runs_transcript (stillHost (fiveBytes ++ fiveBytes) (some 3) (.ok ()))
    (watch .standard 1 [soloClosed]) ()
  have closed : ((watch .standard 1 [soloTrainer 0]).run
      (stillHost fiveBytes (some 3) (.ok ())) ()).1 =
        (.error (.roleProcessFailure [⟨.trainer, 0, 3⟩] 1), [soloClosed]) := by decide +kernel
  have still : ((watch .standard 1 [soloClosed]).run
      (stillHost (fiveBytes ++ fiveBytes) (some 3) (.ok ())) ()).1 =
        (.error (.roleProcessFailure [⟨.trainer, 0, 3⟩] 1), [soloClosed]) := by decide +kernel
  rw [closed] at first
  rw [still] at second
  exact ⟨soloStart_starts, first, second, by decide +kernel,
    willing_append.mpr ⟨willing_stillHost _, willing_stillHost _⟩, by decide +kernel,
    by decide +kernel, by decide +kernel⟩

end Solo

end Supervision

end TrainingLauncher
