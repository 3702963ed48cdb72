/-
The logs of the processes that a start leaves running. Every process writes to a file of its own,
which is opened directly before the process is started; what stood in the file by then is not for
the observer.

* `Launcher.Opened`: how a process and its log have come about.
* `Launcher.StartsPod`: a start of either kind that has succeeded.
* `Launcher.StartsPod.opened`, `Launcher.StartsPod.distinct`: every process has its log, and no two
  processes are in the same place.
* `Launcher.StartsPod.silent`: a start hands nothing to the observer.
-/

import Mathlib.Data.List.Nodup
import TrainingLauncher.Proofs.Delivery
import TrainingLauncher.Proofs.Startup

namespace TrainingLauncher

open Program

/-- The role of a process and its place among the local processes of the role. -/
def Handle.seat (handle : Handle) : Role × Nat := (handle.role, handle.slot)

namespace Launcher

/-- The role of a process to be started and its place among the local ones. -/
def Task.seat (task : Task) : Role × Nat := (task.role, task.slot)

/-- The log file of a process. -/
def logFile (directory : String) (seat : Role × Nat) : String :=
  joinPath directory s!"{seat.1.logStem}.{seat.2}"

/-- Directly before a process was started its log was opened. The handle has the log open and points
to where it ended. -/
def Opened (launcher : Launcher) (directory : String) (exchanges : List Exchange)
    (handle : Handle) : Prop :=
  ∃ early late length environment,
    exchanges = early ++ ⟨.openLog (logFile directory handle.seat), .ok length⟩ ::
      ⟨.spawn handle.child launcher.command environment (.file (logFile directory handle.seat)),
        .ok handle.pid⟩ :: late ∧
    handle.logPath = some (logFile directory handle.seat) ∧ handle.logOpen = true ∧
    handle.logOffset = length

variable {launcher : Launcher} {directory : String} {exchanges : List Exchange}

section Opening

theorem Opened.within {handle : Handle} (opened : launcher.Opened directory exchanges handle)
    (before after : List Exchange) :
    launcher.Opened directory (before ++ (exchanges ++ after)) handle := by
  obtain ⟨early, late, length, environment, rfl, there, held, start⟩ := opened
  refine ⟨before ++ early, late ++ after, length, environment, ?_, there, held, start⟩
  simp only [List.append_assoc, List.cons_append]

theorem Opened.logOpen {handle : Handle} (opened : launcher.Opened directory exchanges handle) :
    handle.logOpen = true := by
  obtain ⟨_, _, _, _, -, -, held, -⟩ := opened
  exact held

/-- What stood in the log when it was opened still stands there. -/
theorem Opened.offset_le {handle : Handle} {content : ByteArray} {events : List Event}
    (opened : launcher.Opened directory exchanges handle) (told : exchanged events = exchanges)
    (faithful : Faithful (logFile directory handle.seat) content events) :
    handle.logOffset ≤ (content ++ grown events).size := by
  obtain ⟨early, late, length, environment, rfl, -, -, rfl⟩ := opened
  obtain ⟨first, second, rfl, -, rest, -, faithful⟩ := faithful.split told
  obtain ⟨before, after, rfl, -, -, shown⟩ := faithful.uncons rest
  rw [length_of_shows shown, grown_append, ← ByteArray.append_assoc, append_grown_exchange]
  exact le_size_append (Nat.le_refl _) _

/-- A process is started with its log. -/
theorem startOne_opened (kept : launcher.logDir = some directory) {child : Nat} {task : Task}
    {handle : Handle} (ran : Runs (launcher.startOne child task) exchanges (.ok handle)) :
    handle.seat = task.seat ∧ launcher.Opened directory exchanges handle := by
  unfold startOne at ran
  split at ran
  · cases (runs_pure.mp ran).2
  · rename_i own _
    obtain ⟨told, second, _, rfl, -, after⟩ := (runs_bind _ _ _ _).mp ran
    obtain ⟨opening, third, opened, rfl, openedLog, going⟩ := (runs_bind _ _ _ _).mp after
    unfold openLog at openedLog
    simp only [kept] at openedLog
    obtain ⟨created, rest, rfl, further⟩ := runs_ask.mp openedLog
    cases created with
    | error error =>
      obtain ⟨rfl, rfl⟩ := runs_pure.mp further
      cases (runs_pure.mp going).2
    | ok =>
      obtain ⟨answer, last, rfl, done⟩ := runs_ask.mp further
      cases answer with
      | error error =>
        obtain ⟨rfl, rfl⟩ := runs_pure.mp done
        cases (runs_pure.mp going).2
      | ok length =>
        obtain ⟨rfl, rfl⟩ := runs_pure.mp done
        obtain ⟨spawned, rest, rfl, ending⟩ := runs_ask.mp going
        cases spawned with
        | error error => cases (runs_pure.mp ending).2
        | ok pid =>
          obtain ⟨rfl, same⟩ := runs_pure.mp ending
          cases same
          refine ⟨rfl, told ++ [⟨.createDirectory directory, .ok ()⟩], [], length,
            launcher.inherited.under own, ?_, rfl, rfl, rfl⟩
          simp only [List.append_assoc, List.cons_append, List.nil_append]
          rfl

/-- All processes of a start that succeeds are started with their logs. -/
theorem startAll_opened (kept : launcher.logDir = some directory) {started handles : List Handle}
    {tasks : List Task} (ran : Runs (launcher.startAll started tasks) exchanges (.ok (), handles)) :
    ∃ new, handles = started ++ new ∧ new.map Handle.seat = tasks.map Task.seat ∧
      ∀ handle ∈ new, launcher.Opened directory exchanges handle := by
  induction tasks generalizing started exchanges with
  | nil =>
    cases (runs_pure.mp ran).2
    exact ⟨[], (List.append_nil _).symm, rfl, fun _ member => by cases member⟩
  | cons task rest ih =>
    rw [startAll] at ran
    obtain ⟨first, second, result, rfl, tried, after⟩ := (runs_bind _ _ _ _).mp ran
    cases result with
    | error error =>
      obtain ⟨_, _, _, rfl, -, done⟩ := (runs_bind _ _ _ _).mp after
      cases (runs_pure.mp done).2
    | ok handle =>
      obtain ⟨seat, opened⟩ := startOne_opened kept tried
      obtain ⟨new, rfl, seats, others⟩ := ih after
      refine ⟨handle :: new, List.append_assoc .., ?_, List.forall_mem_cons.mpr ⟨?_, ?_⟩⟩
      · rw [List.map_cons, List.map_cons, seat, seats]
      · exact opened.within [] second
      · intro other member
        have opened := (others other member).within first []
        rwa [List.append_nil] at opened

end Opening

section Pods

/-- The processes of a pod are started, with success. -/
def StartsPod (launcher : Launcher) (cluster : Cluster) (pod : Pod) (exchanges : List Exchange)
    (handles : List Handle) : Prop :=
  (∃ extra, Runs (launcher.startTrainers cluster pod extra) exchanges (.ok (), handles)) ∨
    ∃ job, Runs (launcher.startServerRoles cluster pod job) exchanges (.ok (), handles)

variable {cluster : Cluster} {pod : Pod} {handles : List Handle}

theorem tasks_seat (pod : Pod) (role : Role)
    (own : RoleProcess → Nat → Except LaunchError Environment) :
    (tasks pod role own).map Task.seat =
      (List.range (pod.processes role).length).map fun slot => (role, slot) := by
  rw [tasks, List.map_map, List.range_eq_range', ← List.zipIdx_map_snd 0, List.map_map]
  rfl

theorem nodup_seats (role : Role) (count : Nat) :
    ((List.range count).map fun slot => (role, slot)).Nodup :=
  List.nodup_range.map fun _ _ same => (Prod.mk.inj same).2

theorem trainerTasks_nodup (cluster : Cluster) (pod : Pod) (extra : Environment) :
    ((trainerTasks cluster pod extra).map Task.seat).Nodup := by
  rw [trainerTasks, tasks_seat]
  exact nodup_seats _ _

/-- Tasks of different roles are in different places. -/
theorem tasks_nodup (pod : Pod) {roles : List Role} (distinct : roles.Nodup)
    (own : Role → RoleProcess → Nat → Except LaunchError Environment) :
    ((roles.flatMap fun role => tasks pod role (own role)).map Task.seat).Nodup := by
  rw [List.map_flatMap, List.nodup_flatMap]
  refine ⟨fun role _ => tasks_seat pod role _ ▸ nodup_seats _ _, ?_⟩
  refine distinct.imp fun {one other} differ => ?_
  intro seat here there
  simp only [tasks_seat, List.mem_map] at here there
  obtain ⟨_, -, rfl⟩ := here
  obtain ⟨_, -, same⟩ := there
  exact differ (Prod.mk.inj same).1.symm

theorem serverTasks_nodup (pod : Pod) (job : Environment.ServerJob) :
    ((serverTasks pod job).map Task.seat).Nodup :=
  tasks_nodup pod (by decide) job.environment

/-- **A start hands nothing to the observer.** -/
theorem StartsPod.silent (starts : launcher.StartsPod cluster pod exchanges handles) :
    delivered exchanges = .empty := by
  rcases starts with ⟨extra, ran⟩ | ⟨job, ran⟩
  · exact delivered_eq_empty fun exchange member =>
      (ran.asked (startTrainers_isStarting cluster pod extra) exchange member).silent
  · exact delivered_eq_empty fun exchange member =>
      (ran.asked (startServerRoles_isStarting cluster pod job) exchange member).silent

/-- A start is that of its tasks, between other things. -/
theorem Performs.opened {tasks : List Task} (kept : launcher.logDir = some directory)
    (performs : launcher.Performs tasks exchanges (.ok (), handles)) :
    handles.map Handle.seat = tasks.map Task.seat ∧
      ∀ handle ∈ handles, launcher.Opened directory exchanges handle := by
  cases performs with
  | tried before after ran =>
    obtain ⟨new, rfl, seats, opened⟩ := startAll_opened kept ran
    exact ⟨seats, fun handle member => (opened handle member).within _ _⟩

/-- **Every process that was started has its log, and no two of them are in the same place.** -/
theorem StartsPod.opened (starts : launcher.StartsPod cluster pod exchanges handles)
    (kept : launcher.logDir = some directory) :
    (handles.map Handle.seat).Nodup ∧
      ∀ handle ∈ handles, launcher.Opened directory exchanges handle := by
  rcases starts with ⟨extra, ran⟩ | ⟨job, ran⟩
  · obtain ⟨seats, opened⟩ := (startTrainers_performs ran).opened kept
    exact ⟨seats ▸ trainerTasks_nodup cluster pod extra, opened⟩
  · obtain ⟨seats, opened⟩ := (startServerRoles_performs ran).opened kept
    exact ⟨seats ▸ serverTasks_nodup pod job, opened⟩

end Pods

end Launcher

end TrainingLauncher
