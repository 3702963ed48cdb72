/-
How a start that fails is undone. The first process that cannot be started ends it: nothing more is
spawned, those that run by then are stopped by force and waited for, and their logs are closed.
Whatever comes of that, the answer is why the process could not be started.

* `Discards.undone`: each of those that are discarded is stopped once, and waited for when that has
  gone well.
* `Launcher.runs_startAll_error`: a start that fails is one that goes well, up to the task that
  fails, and then discards what it has.
* `Launcher.RollsBack`: what is left of a start that has failed at a task.
* `Launcher.Begins.rolls_back`: every start goes well or is rolled back.
-/

import TrainingLauncher.Proofs.Spawning
import TrainingLauncher.Proofs.Sweeps

namespace TrainingLauncher

open Program Rehearsal

section Discards

/-- The child that an exchange waits for. -/
def waited? : Exchange → Option Nat
  | ⟨.wait child, _⟩ => some child
  | _ => none

/-- The children that were waited for, as often as they were. -/
def waits (exchanges : List Exchange) : List Nat := exchanges.filterMap waited?

/-- The child that an exchange has stopped by force. -/
def stopped? : Exchange → Option Nat
  | ⟨.kill child, .ok _⟩ => some child
  | _ => none

/-- The children that were stopped by force with success. -/
def stopped (exchanges : List Exchange) : List Nat := exchanges.filterMap stopped?

/-- Nobody is asked to stop; the children are stopped by force, each of them once and in order, and
those with whom that goes well are waited for. -/
structure Undone (children : List Nat) (exchanges : List Exchange) : Prop where
  asked : terminations exchanges = []
  forced : kills exchanges = children
  awaited : waits exchanges = stopped exchanges

/-- **Discarding** stops everybody once and waits for whoever is stopped, whatever the answers
are. -/
theorem Discards.undone {children : List Nat} {exchanges : List Exchange}
    (discards : Discards children exchanges) : Undone children exchanges := by
  induction discards with
  | nil => exact ⟨rfl, rfl, rfl⟩
  | refused child error _ ih => exact ⟨ih.asked, congrArg (child :: ·) ih.forced, ih.awaited⟩
  | stopped child ended _ ih =>
    exact ⟨ih.asked, congrArg (child :: ·) ih.forced, congrArg (child :: ·) ih.awaited⟩

/-- All of that is process control. -/
theorem Undone.of_calls {children : List Nat} {exchanges : List Exchange}
    (undone : Undone children (calls exchanges)) : Undone children exchanges where
  asked := terminations_calls exchanges ▸ undone.asked
  forced := kills_calls exchanges ▸ undone.forced
  awaited := by
    have waited : (calls exchanges).filterMap waited? = exchanges.filterMap waited? := by
      refine filterMap_calls ?_ exchanges
      rintro ⟨request, answer⟩ uncontrolled
      cases request <;> first | rfl | cases uncontrolled
    have stopped : (calls exchanges).filterMap stopped? = exchanges.filterMap stopped? := by
      refine filterMap_calls ?_ exchanges
      rintro ⟨request, answer⟩ uncontrolled
      cases request <;> first | rfl | cases uncontrolled
    exact (waited.symm.trans undone.awaited).trans stopped

end Discards

namespace Launcher

variable {launcher : Launcher} {exchanges : List Exchange}

section Failure

/-- A process that is not started leaves nothing behind. -/
theorem Fails.nothing {child : Nat} {task : Task} {error : LaunchError}
    (fails : launcher.Fails child task exchanges error) :
    calls exchanges = [] ∧ spawned exchanges = [] := by
  cases fails with
  | unready lacks => exact ⟨rfl, rfl⟩
  | unopened idle => exact ⟨idle.calls, idle.spawned⟩
  | unspawned ready idle =>
    rw [calls_append, spawned_append, idle.calls, idle.spawned]
    exact ⟨rfl, rfl⟩

theorem Orders.failed {child : Nat} {task : Task} {error : LaunchError}
    (orders : launcher.Orders child task exchanges (.error error)) :
    launcher.Fails child task exchanges error := by
  cases orders with
  | fails fails => exact fails

/-- **A start that fails** is one that goes well, up to the task that fails. Then whatever runs is
discarded. -/
theorem runs_startAll_error {started left : List Handle} {tasks : List Task} {error : LaunchError}
    (ran : Runs (launcher.startAll started tasks) exchanges (.error error, left)) :
    ∃ before task after handles starting failing discarding,
      tasks = before ++ task :: after ∧ exchanges = starting ++ (failing ++ discarding) ∧
      Runs (launcher.startAll started before) starting (.ok (), handles) ∧
      Runs (launcher.startOne (launcher.nextChild + handles.length) task) failing (.error error) ∧
      Runs (discardAll handles) discarding () ∧ left = handles.map Handle.closeLog := by
  induction tasks generalizing started exchanges with
  | nil => cases (runs_pure.mp ran).2
  | cons task tasks ih =>
    rw [startAll] at ran
    obtain ⟨first, second, result, rfl, tried, after⟩ := (runs_bind _ _ _ _).mp ran
    cases result with
    | error error =>
      obtain ⟨discarding, nothing, _, rfl, discarded, done⟩ := (runs_bind _ _ _ _).mp after
      obtain ⟨rfl, same⟩ := runs_pure.mp done
      cases same
      rw [List.append_nil]
      exact ⟨[], task, tasks, started, [], first, discarding, rfl, rfl, runs_pure.mpr ⟨rfl, rfl⟩,
        tried, discarded, rfl⟩
    | ok handle =>
      obtain ⟨before, failed, rest, handles, starting, failing, discarding, rfl, rfl, well, fails,
        discarded, rfl⟩ := ih after
      refine ⟨task :: before, failed, rest, handles, first ++ starting, failing, discarding, rfl,
        (List.append_assoc ..).symm, ?_, fails, discarded, rfl⟩
      rw [startAll]
      exact (runs_bind _ _ _ _).mpr ⟨first, starting, _, rfl, tried, well⟩

end Failure

section Rollback

/-- What a start does that has failed at a task, and what it leaves. -/
structure RollsBack (launcher : Launcher) (before : List Task) (task : Task)
    (started : List Handle) (exchanges : List Exchange) (error : LaunchError)
    (left : List Handle) : Prop where
  /-- Every task before it has got its process. -/
  filled : List.Forall₂ (fun task => launcher.Fills exchanges task.post task.own) before started
  children : started.map Handle.child = List.range' launcher.nextChild before.length
  /-- No other process has been started. -/
  spawned : spawned exchanges = started.map Handle.child
  /-- Nothing has failed before; the error is why the process of the task is not started, and
  afterwards nothing more is to be started. -/
  fails : ∃ sofar failing rest, exchanges = sofar ++ (failing ++ rest) ∧ Flawless sofar ∧
    attempts sofar = started.map Handle.child ∧ attempts rest = [] ∧
    launcher.Fails (launcher.nextChild + before.length) task failing error
  /-- All process control is to discard those that have been started. -/
  discards : Discards (started.map Handle.child) (calls exchanges)
  closed : left = started.map Handle.closeLog
  /-- No log is open any more. -/
  shut : ∀ handle ∈ left, handle.logOpen = false

variable {cluster : Cluster} {pod : Pod} {tasks : List Task} {left : List Handle}
  {error : LaunchError}

/-- A start fails because the list of the endpoints cannot be written, or at a task. -/
theorem Courses.rollsBack
    (courses : launcher.Courses cluster tasks exchanges (.error error, left)) :
    Runs (launcher.writeEndpoints cluster) exchanges (.error error) ∧ left = [] ∨
      ∃ before task after started, tasks = before ++ task :: after ∧
        launcher.RollsBack before task started exchanges error left := by
  cases courses with
  | unwritten failed => exact .inl ⟨failed, rfl⟩
  | @written writing early during late _ wrote told reported ran =>
    refine .inr ?_
    obtain ⟨before, task, after, started, starting, failing, discarding, rfl, rfl, well, tried,
      discarded, rfl⟩ := runs_startAll_error ran
    obtain ⟨_, rfl, filled, children, attempted, begun⟩ := startAll_filled well
    have unharmed : calls starting = [] := by
      cases startAll_starts well with
      | all opens => exact opens.unharmed
    have fails := (startOne_orders tried).failed
    obtain ⟨undisturbed, unstarted⟩ := fails.nothing
    obtain ⟨nothing, discards⟩ := runs_discardAll discarded
    have quiet : Idle (writing ++ early) :=
      Idle.append (wrote.asked (writeEndpoints_isIdle cluster)) told.idle
    have same : writing ++ (early ++ (starting ++ (failing ++ discarding) ++ late)) =
        (writing ++ early ++ starting) ++ (failing ++ (discarding ++ late)) := by
      simp only [List.append_assoc]
    rw [same]
    refine ⟨before, task, after, started, rfl,
      ⟨?_, ?_, ?_, ?_, ?_, rfl, Termination.logOpen_closeLog started⟩⟩
    · refine filled.imp fun _ _ fills => fills.mono fun exchange member => ?_
      exact List.mem_append_left _ (List.mem_append_right _ member)
    · rw [children, filled.length_eq]
      rfl
    · simp only [spawned_append, quiet.spawned, begun, unstarted, nothing, reported.idle.spawned,
        List.nil_append, List.append_nil]
    · refine ⟨_, failing, _, rfl, ?_, ?_, ?_, ?_⟩
      · exact ((writeEndpoints_flawless wrote).append told.flawless).append (startAll_flawless well)
      · rw [attempts_append, quiet.attempts, attempted, List.nil_append]
      · rw [attempts_append, attempts_eq_nil (discarded.asked (discardAll_spawnsNothing started)),
          reported.idle.attempts]
        rfl
      · rwa [filled.length_eq]
    · simpa only [calls_append, quiet.calls, unharmed, undisturbed, reported.idle.calls,
        List.nil_append, List.append_nil] using discards

/-- In a start that goes well every task is ready, and no step fails. -/
theorem Courses.flawless (courses : launcher.Courses cluster tasks exchanges (.ok (), left)) :
    (∀ task ∈ tasks, task.IsReady) ∧ Flawless exchanges := by
  cases courses with
  | written wrote told reported ran =>
    obtain ⟨started, -, filled, -⟩ := startAll_filled ran
    have ready : List.Forall₂ (fun task _ => task.IsReady ∧ True) tasks started := by
      refine filled.imp fun task handle fills => ?_
      obtain ⟨own, known, -⟩ := fills.spawned
      exact ⟨⟨own, known⟩, trivial⟩
    refine ⟨((List.forall₂_and_left _ _).mp ready).1, ?_⟩
    exact (writeEndpoints_flawless wrote).append
      (told.flawless.append ((startAll_flawless ran).append reported.flawless))

/-- The two starts of a pod, and their tasks. -/
inductive Begins (launcher : Launcher) (cluster : Cluster) (pod : Pod) :
    List Task → Program (Except LaunchError Unit × List Handle) → Prop
  | trainers (extra : Environment) :
      Begins launcher cluster pod (trainerTasks cluster pod extra)
        (launcher.startTrainers cluster pod extra)
  | serverRoles (job : Environment.ServerJob) :
      Begins launcher cluster pod (serverTasks pod job) (launcher.startServerRoles cluster pod job)

theorem Begins.courses {start : Program (Except LaunchError Unit × List Handle)}
    (begins : launcher.Begins cluster pod tasks start)
    {outcome : Except LaunchError Unit × List Handle} (ran : Runs start exchanges outcome) :
    launcher.Courses cluster tasks exchanges outcome := by
  cases begins with
  | trainers extra => exact startTrainers_courses ran
  | serverRoles job => exact startServerRoles_courses ran

/-- **Every start goes well or is rolled back.** It goes well exactly when every task has its
variables and no step fails. When it does not, either the list of the endpoints could not be
written, and nothing was to be started; or the first task that failed is the reason, and whatever
was started before it has been stopped by force and waited for, with its log closed. -/
theorem Begins.rolls_back {start : Program (Except LaunchError Unit × List Handle)}
    {result : Except LaunchError Unit} (begins : launcher.Begins cluster pod tasks start)
    (ran : Runs start exchanges (result, left)) :
    (result = .ok () ↔ (∀ task ∈ tasks, task.IsReady) ∧ Flawless exchanges) ∧
    ∀ error, result = .error error →
      (Runs (launcher.writeEndpoints cluster) exchanges (.error error) ∧
        (∃ cause, error = .io cause) ∧ Idle exchanges ∧ left = []) ∨
      ∃ before task after started, tasks = before ++ task :: after ∧
        launcher.RollsBack before task started exchanges error left ∧
        Undone (started.map Handle.child) exchanges := by
  have courses := begins.courses ran
  refine ⟨⟨?_, ?_⟩, ?_⟩
  · rintro rfl
    exact courses.flawless
  · rintro ⟨ready, fine⟩
    exact courses.succeeds ready fine
  · rintro error rfl
    refine courses.rollsBack.imp ?_ ?_
    · rintro ⟨failed, rfl⟩
      exact ⟨failed, runs_writeEndpoints_error failed, failed.asked (writeEndpoints_isIdle cluster),
        rfl⟩
    · rintro ⟨before, task, after, started, split, back⟩
      exact ⟨before, task, after, started, split, back, back.discards.undone.of_calls⟩

/-- A pod with a server, a worker and a heter worker. -/
def mixedPod : Pod :=
  { Pod.empty 0 "127.0.0.1" with
    servers := [⟨[], ⟨"127.0.0.1", 6070⟩, 0⟩]
    trainers := [⟨[], ⟨"127.0.0.1", 6071⟩, 0⟩]
    heterWorkers := [⟨[], ⟨"127.0.0.1", 6072⟩, 0⟩] }

/-- What its processes are told. -/
def mixedJob : Environment.ServerJob := .ofCluster (.ofPods [mixedPod]) .gpu 1 "/rendezvous"

/-- A launcher that keeps the logs of its processes. -/
def loggingLauncher : Launcher := .new (.ofWords "train.py" []) (some "log") (.ofList []) 0

/-- A machine on which the third process cannot be spawned, and the first cannot be stopped. -/
def crampedHost : Host Unit where
  answer request state := match request with
    | .spawn 2 .. => (.error (.other "no memory"), state)
    | .kill 0 => (.error (.other "denied"), state)
    | other => (stillHost .empty none (.ok ())).answer other state

/-- The start of the pod. -/
def mixedStart : Program (Except LaunchError Unit × List Handle) :=
  loggingLauncher.startServerRoles (.ofPods [mixedPod]) mixedPod mixedJob

/-- What is said during that start. -/
def mixedExchanges : List Exchange := mixedStart.transcript crampedHost ()

theorem Begins.rolls_back_mixedStart :
    (mixedStart.run crampedHost ()).1.1 = .error (.spawn 0 (.other "no memory")) ∧
      terminations mixedExchanges = [] ∧ kills mixedExchanges = [0, 1] ∧
      waits mixedExchanges = [1] ∧ ∃ started : List Handle, started.map Handle.child = [0, 1] ∧
        (∀ handle ∈ started, handle.logOpen = true) ∧
        (mixedStart.run crampedHost ()).1.2 = started.map Handle.closeLog ∧
        ∀ handle ∈ (mixedStart.run crampedHost ()).1.2, handle.logOpen = false := by
  have ran := runs_transcript crampedHost mixedStart ()
  have failed : (mixedStart.run crampedHost ()).1.1 =
      .error (.spawn 0 (.other "no memory")) := by decide +kernel
  obtain ⟨-, rolled⟩ := Begins.rolls_back (.serverRoles mixedJob) ran
  obtain ⟨-, ⟨cause, same⟩, -⟩ | ⟨_, _, _, started, -, back, undone⟩ := rolled _ failed
  · cases same
  · have forced : kills mixedExchanges = [0, 1] := by decide +kernel
    have weakened : stopped mixedExchanges = [1] := by decide +kernel
    have logged : ∀ handle ∈ started, handle.logOpen = true := by
      intro handle member
      obtain ⟨task, -, fills⟩ := exists_mem_of_forall₂ back.filled member
      rw [fills.logOpen, fills.logPath]
      rfl
    exact ⟨failed, undone.asked, forced, undone.awaited.trans weakened, started,
      undone.forced.symm.trans forced, logged, back.closed, back.shut⟩

end Rollback

end Launcher

end TrainingLauncher
