/-
What the start of a pod does to its processes. As long as nothing goes wrong it only starts them, as
children of consecutive numbers. At the first that cannot be started it discards those before it:
each is stopped by force, and waited for when that was possible.

* `Discards`: the process control of discarding children.
* `Discards.sparesEnded`: whoever was waited for is not signalled again.
* `Launcher.Starts`: the two ways in which a start ends.
* `Launcher.Courses`: a start writes the list of the endpoints and then starts its tasks.
* `Launcher.Performs`: a start does nothing with processes but to start its tasks.
* `Launcher.Performs.starts`: so every start ends in one of the two ways.
-/

import TrainingLauncher.Proofs.Control
import TrainingLauncher.Startup

namespace TrainingLauncher

open Program

section Discards

/-- The process control of discarding children, one after the other. -/
inductive Discards : List Nat → List Exchange → Prop
  | nil : Discards [] []
  | refused (child : Nat) (error : IoError) {others : List Nat} {rest : List Exchange}
      (discards : Discards others rest) :
      Discards (child :: others) (⟨.kill child, .error error⟩ :: rest)
  | stopped (child : Nat) (ended : Except IoError Int) {others : List Nat} {rest : List Exchange}
      (discards : Discards others rest) :
      Discards (child :: others) (⟨.kill child, .ok ()⟩ :: ⟨.wait child, ended⟩ :: rest)

variable {children : List Nat} {exchanges : List Exchange}

/-- Only those that are discarded are signalled. -/
theorem Discards.mem_of_signals (discards : Discards children exchanges) {exchange : Exchange}
    {child : Nat} (member : exchange ∈ exchanges) (signals : exchange.Signals child) :
    child ∈ children := by
  induction discards with
  | nil => cases member
  | refused other error _ ih =>
    rcases List.mem_cons.mp member with rfl | member
    · obtain rfl : other = child := by simpa [Exchange.Signals] using signals
      exact List.mem_cons_self
    · exact List.mem_cons_of_mem _ (ih member)
  | stopped other ended _ ih =>
    rcases List.mem_cons.mp member with rfl | member
    · obtain rfl : other = child := by simpa [Exchange.Signals] using signals
      exact List.mem_cons_self
    rcases List.mem_cons.mp member with rfl | member
    · simp [Exchange.Signals] at signals
    · exact List.mem_cons_of_mem _ (ih member)

/-- Everybody who is discarded is stopped by force. -/
theorem Discards.killed (discards : Discards children exchanges) :
    ∀ child ∈ children, ∃ exchange ∈ exchanges, exchange.request = .kill child := by
  induction discards with
  | nil => exact fun _ member => by cases member
  | refused other error _ ih =>
    intro child member
    rcases List.mem_cons.mp member with rfl | member
    · exact ⟨_, List.mem_cons_self, rfl⟩
    · obtain ⟨exchange, inside, kills⟩ := ih child member
      exact ⟨exchange, List.mem_cons_of_mem _ inside, kills⟩
  | stopped other ended _ ih =>
    intro child member
    rcases List.mem_cons.mp member with rfl | member
    · exact ⟨_, List.mem_cons_self, rfl⟩
    · obtain ⟨exchange, inside, kills⟩ := ih child member
      exact ⟨exchange, List.mem_cons_of_mem _ (List.mem_cons_of_mem _ inside), kills⟩

theorem Discards.settled (discards : Discards children exchanges) :
    ∀ child ∈ children, Settled exchanges child := fun child member =>
  .inr (discards.killed child member)

/-- A kill tells of no end. -/
theorem Exchange.not_ends_kill {child other : Nat} {reply : Except IoError Unit} :
    ¬ (⟨.kill child, reply⟩ : Exchange).Ends other := by
  rintro ⟨code, same | same⟩ <;> simp at same

/-- **Discarding distinct children spares the ended**: each of them is waited for after it was
signalled for the last time. -/
theorem Discards.sparesEnded (discards : Discards children exchanges) (distinct : children.Nodup) :
    SparesEnded exchanges := by
  induction discards with
  | nil => exact .nil
  | refused child error _ ih =>
    exact .cons (fun _ _ _ ends => (Exchange.not_ends_kill ends).elim)
      (ih (List.nodup_cons.mp distinct).2)
  | stopped child ended discards ih =>
    obtain ⟨absent, distinct⟩ := List.nodup_cons.mp distinct
    refine .cons (fun _ _ _ ends => (Exchange.not_ends_kill ends).elim) (.cons ?_ (ih distinct))
    intro exchange member other ends signals
    obtain ⟨code, same | same⟩ := ends
    · simp at same
    · simp only [Exchange.mk.injEq, Request.wait.injEq] at same
      exact absent (same.1 ▸ discards.mem_of_signals member signals)

end Discards

namespace Launcher

variable {launcher : Launcher} {exchanges : List Exchange}

section Requests

theorem writeEndpoints_isPreparing (cluster : Cluster) :
    (launcher.writeEndpoints cluster).Asks Request.IsPreparing := by
  unfold writeEndpoints
  split
  · exact asks_pure _
  · refine asks_bind (asks_request trivial) fun created => ?_
    cases created with
    | error error => exact asks_pure _
    | ok =>
      refine asks_bind (asks_request trivial) fun written => ?_
      cases written <;> exact asks_pure _

theorem writeEndpoints_isIdle (cluster : Cluster) :
    (launcher.writeEndpoints cluster).Asks Request.IsIdle :=
  (writeEndpoints_isPreparing cluster).mono fun _ => Request.IsPreparing.idle

theorem openLog_isPreparing (task : Task) : (launcher.openLog task).Asks Request.IsPreparing := by
  unfold openLog
  split
  · exact asks_pure _
  · refine asks_bind (asks_request trivial) fun created => ?_
    cases created with
    | error error => exact asks_pure _
    | ok =>
      refine asks_bind (asks_request trivial) fun opened => ?_
      cases opened <;> exact asks_pure _

theorem openLog_isIdle (task : Task) : (launcher.openLog task).Asks Request.IsIdle :=
  (openLog_isPreparing task).mono fun _ => Request.IsPreparing.idle

theorem reportVariables_isReport (task : Task) (own : Environment) :
    (reportVariables task own).Asks Request.IsReport := by
  unfold reportVariables
  split
  · exact report_asks _ _ trivial
  · exact asks_pure _

theorem reportVariables_isPreparing (task : Task) (own : Environment) :
    (reportVariables task own).Asks Request.IsPreparing :=
  (reportVariables_isReport task own).mono fun _ => Request.IsReport.preparing

theorem reportVariables_isIdle (task : Task) (own : Environment) :
    (reportVariables task own).Asks Request.IsIdle :=
  (reportVariables_isPreparing task own).mono fun _ => Request.IsPreparing.idle

theorem startOne_isStarting (child : Nat) (task : Task) :
    (launcher.startOne child task).Asks Request.IsStarting := by
  unfold startOne
  split
  · exact asks_pure _
  · refine asks_bind ((reportVariables_isPreparing _ _).mono fun _ => .inl) fun _ => ?_
    refine asks_bind ((openLog_isPreparing task).mono fun _ => .inl) fun opened => ?_
    cases opened with
    | error error => exact asks_pure _
    | ok log =>
      refine asks_bind (asks_request (.inr (.inr id))) fun spawned => ?_
      cases spawned <;> exact asks_pure _

theorem discardAll_isDiscarding (handles : List Handle) :
    (discardAll handles).Asks Request.IsDiscarding := by
  induction handles with
  | nil => exact asks_pure _
  | cons handle rest ih =>
    refine asks_bind (asks_bind (asks_request trivial) fun killed => ?_) fun _ => ih
    cases killed with
    | error error => exact report_asks _ _ trivial
    | ok =>
      refine asks_bind (asks_request trivial) fun ended => ?_
      cases ended with
      | error error => exact report_asks _ _ trivial
      | ok code => exact asks_pure _

theorem startAll_isStarting (started : List Handle) (tasks : List Task) :
    (launcher.startAll started tasks).Asks Request.IsStarting := by
  induction tasks generalizing started with
  | nil => exact asks_pure _
  | cons task rest ih =>
    refine asks_bind (startOne_isStarting _ task) fun result => ?_
    cases result with
    | error error =>
      refine asks_bind ((discardAll_isDiscarding started).mono fun _ discarding => ?_) fun _ =>
        asks_pure _
      exact .inr (.inl discarding)
    | ok handle => exact ih _

/-- A start prepares, spawns and discards, and does nothing else. -/
theorem startTrainers_isStarting (cluster : Cluster) (pod : Pod) (extra : Environment) :
    (launcher.startTrainers cluster pod extra).Asks Request.IsStarting := by
  refine asks_bind ((writeEndpoints_isPreparing cluster).mono fun _ => .inl) fun written => ?_
  cases written with
  | error error => exact asks_pure _
  | ok =>
    cases place : launcher.logDir with
    | none => exact startAll_isStarting _ _
    | some directory =>
      exact asks_bind (report_asks _ _ (.inl trivial)) fun _ => startAll_isStarting _ _

theorem startServerRoles_isStarting (cluster : Cluster) (pod : Pod) (job : Environment.ServerJob) :
    (launcher.startServerRoles cluster pod job).Asks Request.IsStarting := by
  refine asks_bind ((writeEndpoints_isPreparing cluster).mono fun _ => .inl) fun written => ?_
  cases written with
  | error error => exact asks_pure _
  | ok =>
    refine asks_bind (startAll_isStarting _ _) fun (result, handles) => ?_
    cases result with
    | error error => exact asks_pure _
    | ok =>
      cases place : launcher.logDir with
      | none => exact asks_pure _
      | some directory => exact asks_bind (report_asks _ _ (.inl trivial)) fun _ => asks_pure _

end Requests

section Runs

/-- To start a process is to start its child and to control nothing; when that fails, nothing was
started. -/
theorem runs_startOne {child : Nat} {task : Task} {result : Except LaunchError Handle}
    (ran : Runs (launcher.startOne child task) exchanges result) :
    calls exchanges = [] ∧
      ((∃ handle, result = .ok handle ∧ handle.child = child ∧ spawned exchanges = [child]) ∨
        ∃ error, result = .error error ∧ spawned exchanges = []) := by
  unfold startOne at ran
  split at ran
  · obtain ⟨rfl, rfl⟩ := runs_pure.mp ran
    exact ⟨rfl, .inr ⟨_, rfl, rfl⟩⟩
  · rename_i own _
    obtain ⟨told, second, _, rfl, reported, after⟩ := (runs_bind _ _ _ _).mp ran
    obtain ⟨opening, third, opened, rfl, openedLog, going⟩ := (runs_bind _ _ _ _).mp after
    have quiet : Idle (told ++ opening) :=
      Idle.append (reported.asked (reportVariables_isIdle task own))
        (openedLog.asked (openLog_isIdle task))
    rw [← List.append_assoc, calls_append, spawned_append, quiet.calls, quiet.spawned]
    cases opened with
    | error error =>
      obtain ⟨rfl, rfl⟩ := runs_pure.mp going
      exact ⟨rfl, .inr ⟨_, rfl, rfl⟩⟩
    | ok log =>
      obtain ⟨answer, rest, rfl, done⟩ := runs_ask.mp going
      cases answer with
      | error error =>
        obtain ⟨rfl, rfl⟩ := runs_pure.mp done
        exact ⟨rfl, .inr ⟨_, rfl, rfl⟩⟩
      | ok pid =>
        obtain ⟨rfl, rfl⟩ := runs_pure.mp done
        exact ⟨rfl, .inl ⟨_, rfl, rfl, rfl⟩⟩

theorem runs_discard {handle : Handle} (ran : Runs (discard handle) exchanges ()) :
    spawned exchanges = [] ∧ ∀ others rest, Discards others rest →
      Discards (handle.child :: others) (calls exchanges ++ rest) := by
  obtain ⟨killed, rest, rfl, after⟩ := runs_ask.mp ran
  cases killed with
  | error error =>
    have quiet : Idle rest := after.asked (report_asks _ _ trivial)
    refine ⟨quiet.spawned, fun others later discards => ?_⟩
    have control : calls (⟨.kill handle.child, .error error⟩ :: rest) =
        [⟨.kill handle.child, .error error⟩] := congrArg _ quiet.calls
    rw [control]
    exact .refused _ error discards
  | ok =>
    obtain ⟨ended, told, rfl, going⟩ := runs_ask.mp after
    have quiet : Idle told := by
      cases ended with
      | error error => exact going.asked (report_asks _ _ trivial)
      | ok code => exact going.asked (asks_pure _)
    refine ⟨quiet.spawned, fun others later discards => ?_⟩
    have control : calls (⟨.kill handle.child, .ok ()⟩ :: ⟨.wait handle.child, ended⟩ :: told) =
        [⟨.kill handle.child, .ok ()⟩, ⟨.wait handle.child, ended⟩] :=
      congrArg (fun rest => _ :: _ :: rest) quiet.calls
    rw [control]
    exact .stopped _ ended discards

theorem runs_discardAll {handles : List Handle} (ran : Runs (discardAll handles) exchanges ()) :
    spawned exchanges = [] ∧ Discards (handles.map Handle.child) (calls exchanges) := by
  induction handles generalizing exchanges with
  | nil =>
    obtain ⟨rfl, -⟩ := runs_pure.mp ran
    exact ⟨rfl, .nil⟩
  | cons handle rest ih =>
    obtain ⟨first, second, _, rfl, discarded, after⟩ := (runs_bind _ _ _ _).mp ran
    obtain ⟨nothing, discards⟩ := runs_discard discarded
    obtain ⟨others, later⟩ := ih after
    rw [spawned_append, nothing, others, calls_append]
    exact ⟨rfl, discards _ _ later⟩

/-- Processes are started one after the other, as children of consecutive numbers. Either that is
all that happens, or those that run by then are discarded in the end. -/
theorem runs_startAll {started : List Handle} {tasks : List Task}
    {outcome : Except LaunchError Unit × List Handle}
    (ran : Runs (launcher.startAll started tasks) exchanges outcome) :
    ∃ starting rest new, exchanges = starting ++ rest ∧ calls starting = [] ∧
      spawned starting = new.map Handle.child ∧
      spawned starting = List.range' (launcher.nextChild + started.length) new.length ∧
      (rest = [] ∧ outcome = (.ok (), started ++ new) ∨
        spawned rest = [] ∧ Discards ((started ++ new).map Handle.child) (calls rest) ∧
          ∃ error, outcome.1 = .error error) := by
  induction tasks generalizing started exchanges with
  | nil =>
    obtain ⟨rfl, rfl⟩ := runs_pure.mp ran
    exact ⟨[], [], [], rfl, rfl, rfl, rfl, .inl ⟨rfl, by rw [List.append_nil]⟩⟩
  | cons task tasks ih =>
    rw [startAll] at ran
    obtain ⟨first, second, result, rfl, tried, after⟩ := (runs_bind _ _ _ _).mp ran
    obtain ⟨unharmed, ⟨handle, rfl, child, spawned⟩ | ⟨error, rfl, nothing⟩⟩ := runs_startOne tried
    · obtain ⟨starting, rest, new, rfl, silent, same, numbers, ending⟩ := ih after
      refine ⟨first ++ starting, rest, handle :: new, (List.append_assoc ..).symm, ?_, ?_, ?_, ?_⟩
      · rw [calls_append, unharmed, silent, List.append_nil]
      · rw [spawned_append, spawned, same, List.map_cons, child, List.singleton_append]
      · rw [spawned_append, spawned, numbers, List.length_append]
        rfl
      · simpa only [List.append_assoc, List.singleton_append] using ending
    · obtain ⟨discarding, last, _, rfl, discarded, done⟩ := (runs_bind _ _ _ _).mp after
      obtain ⟨rfl, rfl⟩ := runs_pure.mp done
      obtain ⟨none, discards⟩ := runs_discardAll discarded
      refine ⟨first, discarding, [], by rw [List.append_nil], unharmed, nothing, nothing,
        .inr ⟨none, ?_, error, rfl⟩⟩
      rwa [List.append_nil]

/-- Children are started, each of them once, and none is controlled. -/
structure Opens (children : List Nat) (exchanges : List Exchange) : Prop where
  unharmed : calls exchanges = []
  started : spawned exchanges = children
  distinct : children.Nodup

/-- How a start ends: the processes run, or all that were started have been discarded. -/
inductive Starts : List Exchange → Except LaunchError Unit × List Handle → Prop
  | all {exchanges : List Exchange} {handles : List Handle}
      (opens : Opens (handles.map Handle.child) exchanges) : Starts exchanges (.ok (), handles)
  | inVain {children : List Nat} {starting discarding : List Exchange} {handles : List Handle}
      (error : LaunchError) (opens : Opens children starting) (nothing : spawned discarding = [])
      (discards : Discards children (calls discarding)) :
      Starts (starting ++ discarding) (.error error, handles)

variable {outcome : Except LaunchError Unit × List Handle} {children : List Nat}
  {idle : List Exchange}

/-- What comes before and has nothing to do with processes changes nothing. -/
theorem Opens.after (opens : Opens children exchanges) (quiet : Idle idle) :
    Opens children (idle ++ exchanges) where
  unharmed := by rw [calls_append, quiet.calls, opens.unharmed, List.append_nil]
  started := by rw [spawned_append, quiet.spawned, opens.started, List.nil_append]
  distinct := opens.distinct

/-- What follows and has nothing to do with processes changes nothing, either. -/
theorem Opens.before (opens : Opens children exchanges) (quiet : Idle idle) :
    Opens children (exchanges ++ idle) where
  unharmed := by rw [calls_append, quiet.calls, opens.unharmed, List.append_nil]
  started := by rw [spawned_append, quiet.spawned, opens.started, List.append_nil]
  distinct := opens.distinct

theorem Opens.of_idle (quiet : Idle exchanges) : Opens [] exchanges :=
  ⟨quiet.calls, quiet.spawned, .nil⟩

theorem Starts.after (starts : Starts exchanges outcome) (quiet : Idle idle) :
    Starts (idle ++ exchanges) outcome := by
  cases starts with
  | all opens => exact .all (opens.after quiet)
  | inVain error opens nothing discards =>
    rw [← List.append_assoc]
    exact .inVain error (opens.after quiet) nothing discards

theorem Starts.before (starts : Starts exchanges outcome) (quiet : Idle idle) :
    Starts (exchanges ++ idle) outcome := by
  cases starts with
  | all opens => exact .all (opens.before quiet)
  | inVain error opens nothing discards =>
    rw [List.append_assoc]
    refine .inVain error opens ?_ ?_
    · rw [spawned_append, nothing, quiet.spawned, List.append_nil]
    · rwa [calls_append, quiet.calls, List.append_nil]

/-- A start that fails before any process was to be started. -/
theorem Starts.of_idle {handles : List Handle} {error : LaunchError} (quiet : Idle exchanges) :
    Starts exchanges (.error error, handles) := by
  rw [← List.append_nil exchanges]
  exact .inVain error (.of_idle quiet) rfl .nil

/-- **A start from nothing** ends in one of the two ways. -/
theorem startAll_starts {tasks : List Task}
    (ran : Runs (launcher.startAll [] tasks) exchanges outcome) : Starts exchanges outcome := by
  obtain ⟨starting, rest, new, rfl, unharmed, children, numbers, ending⟩ := runs_startAll ran
  have distinct : (new.map Handle.child).Nodup := by
    rw [← children, numbers]
    exact List.nodup_range'
  have opens : Opens (new.map Handle.child) starting := ⟨unharmed, children, distinct⟩
  obtain ⟨rfl, rfl⟩ | ⟨nothing, discards, error, failed⟩ := ending
  · rw [List.append_nil]
    exact .all opens
  · obtain ⟨result, handles⟩ := outcome
    obtain rfl : result = .error error := failed
    exact .inVain error opens nothing discards

/-- What a start does: it writes the list of the endpoints, which may fail, and then starts its
tasks. Whatever else it does has nothing to do with processes. -/
inductive Performs (launcher : Launcher) (tasks : List Task) :
    List Exchange → Except LaunchError Unit × List Handle → Prop
  | unwritten {exchanges : List Exchange} {handles : List Handle} (cause : IoError)
      (quiet : Idle exchanges) : Performs launcher tasks exchanges (.error (.io cause), handles)
  | tried {early during late : List Exchange} {outcome : Except LaunchError Unit × List Handle}
      (before : Idle early) (after : Idle late)
      (ran : Runs (launcher.startAll [] tasks) during outcome) :
      Performs launcher tasks (early ++ (during ++ late)) outcome

theorem Performs.starts {tasks : List Task} (performs : launcher.Performs tasks exchanges outcome) :
    Starts exchanges outcome := by
  cases performs with
  | unwritten cause quiet => exact .of_idle quiet
  | tried before after ran => exact ((startAll_starts ran).before after).after before

/-- Endpoints that cannot be written are the machine's fault. -/
theorem runs_writeEndpoints_error {cluster : Cluster} {error : LaunchError}
    (ran : Runs (launcher.writeEndpoints cluster) exchanges (.error error)) :
    ∃ cause, error = .io cause := by
  unfold writeEndpoints at ran
  split at ran
  · cases (runs_pure.mp ran).2
  · obtain ⟨created, rest, rfl, after⟩ := runs_ask.mp ran
    cases created with
    | error cause => exact ⟨cause, Except.error.inj (runs_pure.mp after).2⟩
    | ok =>
      obtain ⟨written, last, rfl, done⟩ := runs_ask.mp after
      cases written with
      | error cause => exact ⟨cause, Except.error.inj (runs_pure.mp done).2⟩
      | ok => cases (runs_pure.mp done).2

variable {cluster : Cluster} {pod : Pod} {extra : Environment} {job : Environment.ServerJob}

/-- The course of a start: the list of the endpoints is written, and when that has gone well the
tasks are started. -/
inductive Courses (launcher : Launcher) (cluster : Cluster) (tasks : List Task) :
    List Exchange → Except LaunchError Unit × List Handle → Prop
  | unwritten {writing : List Exchange} {error : LaunchError}
      (failed : Runs (launcher.writeEndpoints cluster) writing (.error error)) :
      Courses launcher cluster tasks writing (.error error, [])
  | written {writing early during late : List Exchange}
      {outcome : Except LaunchError Unit × List Handle}
      (wrote : Runs (launcher.writeEndpoints cluster) writing (.ok ())) (before : Reports early)
      (after : Reports late) (ran : Runs (launcher.startAll [] tasks) during outcome) :
      Courses launcher cluster tasks (writing ++ (early ++ (during ++ late))) outcome

theorem Courses.performs {tasks : List Task}
    (courses : launcher.Courses cluster tasks exchanges outcome) :
    launcher.Performs tasks exchanges outcome := by
  cases courses with
  | unwritten failed =>
    obtain ⟨cause, rfl⟩ := runs_writeEndpoints_error failed
    exact .unwritten cause (failed.asked (writeEndpoints_isIdle cluster))
  | written wrote before after ran =>
    rw [← List.append_assoc]
    have quiet := Idle.append (wrote.asked (writeEndpoints_isIdle cluster)) before.idle
    exact .tried quiet after.idle ran

theorem startTrainers_courses
    (ran : Runs (launcher.startTrainers cluster pod extra) exchanges outcome) :
    launcher.Courses cluster (trainerTasks cluster pod extra) exchanges outcome := by
  obtain ⟨first, second, written, rfl, writing, after⟩ := (runs_bind _ _ _ _).mp ran
  cases written with
  | error error =>
    obtain ⟨rfl, rfl⟩ := runs_pure.mp after
    rw [List.append_nil]
    exact .unwritten writing
  | ok =>
    cases place : launcher.logDir with
    | none =>
      simp only [place] at after
      rw [← List.append_nil second]
      exact .written writing reports_nil reports_nil after
    | some directory =>
      simp only [place] at after
      obtain ⟨told, rest, _, rfl, reported, started⟩ := (runs_bind _ _ _ _).mp after
      rw [← List.append_nil rest]
      exact .written writing (reported.asked (report_asks _ _ trivial)) reports_nil started

theorem startServerRoles_courses
    (ran : Runs (launcher.startServerRoles cluster pod job) exchanges outcome) :
    launcher.Courses cluster (serverTasks pod job) exchanges outcome := by
  obtain ⟨first, second, written, rfl, writing, after⟩ := (runs_bind _ _ _ _).mp ran
  cases written with
  | error error =>
    obtain ⟨rfl, rfl⟩ := runs_pure.mp after
    rw [List.append_nil]
    exact .unwritten writing
  | ok =>
    obtain ⟨starting, rest, ⟨result, handles⟩, rfl, started, going⟩ := (runs_bind _ _ _ _).mp after
    cases result with
    | error error =>
      obtain ⟨rfl, rfl⟩ := runs_pure.mp going
      exact .written writing reports_nil reports_nil started
    | ok =>
      cases place : launcher.logDir with
      | none =>
        simp only [place] at going
        obtain ⟨rfl, rfl⟩ := runs_pure.mp going
        exact .written writing reports_nil reports_nil started
      | some directory =>
        simp only [place] at going
        obtain ⟨told, last, _, rfl, reported, done⟩ := (runs_bind _ _ _ _).mp going
        obtain ⟨rfl, rfl⟩ := runs_pure.mp done
        rw [List.append_nil]
        exact .written writing reports_nil (reported.asked (report_asks _ _ trivial)) started

theorem startTrainers_performs
    (ran : Runs (launcher.startTrainers cluster pod extra) exchanges outcome) :
    launcher.Performs (trainerTasks cluster pod extra) exchanges outcome :=
  (startTrainers_courses ran).performs

theorem startServerRoles_performs
    (ran : Runs (launcher.startServerRoles cluster pod job) exchanges outcome) :
    launcher.Performs (serverTasks pod job) exchanges outcome :=
  (startServerRoles_courses ran).performs

end Runs

end Launcher

end TrainingLauncher
