/-
How a start comes to its processes. For every task the log file is opened, if there is a log
directory, and then the process is spawned with what the task says; nothing else is spawned.

* `Launcher.Fails`: why the process of a task is not started.
* `Launcher.Orders`: what is done for one task, and how that ends.
* `Launcher.Performs.orders`: whatever a start spawns is the process of one of its tasks.
* `Launcher.Fills`: a handle is that of the process of a task.
* `Launcher.startAll_filled`: a start that goes well gets every task its process.
* `Launcher.startAll_succeeds`: a start in which no step fails goes well.
-/

import TrainingLauncher.Proofs.Driver
import TrainingLauncher.Proofs.Opening
import TrainingLauncher.Proofs.Refusal

namespace TrainingLauncher

open Program

/-- A step of a start fails: a directory or a file cannot be made, a log cannot be opened or a
process cannot be spawned. -/
def Program.Exchange.FailsToStart : Exchange → Bool
  | ⟨.createRendezvous _, .error _⟩ | ⟨.createDirectory _, .error _⟩ | ⟨.writeFile _ _, .error _⟩
  | ⟨.openLog _, .error _⟩ | ⟨.spawn _ _ _ _, .error _⟩ => true
  | _ => false

/-- No step of a start has failed. -/
def Flawless (exchanges : List Exchange) : Prop := ∀ exchange ∈ exchanges, ¬exchange.FailsToStart

theorem flawless_nil : Flawless [] := List.forall_mem_nil _

theorem Flawless.append {first second : List Exchange} (one : Flawless first)
    (other : Flawless second) : Flawless (first ++ second) :=
  List.forall_mem_append.mpr ⟨one, other⟩

theorem Flawless.cons {exchange : Exchange} {rest : List Exchange}
    (fine : ¬exchange.FailsToStart) (others : Flawless rest) : Flawless (exchange :: rest) :=
  List.forall_mem_cons.mpr ⟨fine, others⟩

/-- To tell the operator something does not fail. -/
theorem Reports.flawless {exchanges : List Exchange} (reports : Reports exchanges) :
    Flawless exchanges := by
  rintro ⟨request, answer⟩ member
  have reported := reports _ member
  cases request <;> first | exact reported.elim | exact Bool.false_ne_true

namespace Launcher

/-- The log file of a process, if there is a log directory. -/
def logPath (launcher : Launcher) (seat : Role × Nat) : Option String :=
  launcher.logDir.map fun directory => logFile directory seat

/-- Where the output of a process goes. -/
def output (launcher : Launcher) (seat : Role × Nat) : Output :=
  ((launcher.logPath seat).map Output.file).getD .inherit

variable {launcher : Launcher} {exchanges : List Exchange}

section Orders

/-- The step at which the log of a task cannot be opened: its directory cannot be made, or the file
cannot be opened. -/
inductive Unopened (launcher : Launcher) (task : Task) (cause : IoError) : Exchange → Prop
  | directory {directory : String} (kept : launcher.logDir = some directory) :
      Unopened launcher task cause ⟨.createDirectory directory, .error cause⟩
  | file {path : String} (there : launcher.logPath task.seat = some path) :
      Unopened launcher task cause ⟨.openLog path, .error cause⟩

/-- Why the process of a task is not started: the first step that fails is the last one. -/
inductive Fails (launcher : Launcher) (child : Nat) (task : Task) :
    List Exchange → LaunchError → Prop
  /-- The task has no variables; nothing is done for it. -/
  | unready {error : LaunchError} (lacks : task.own = .error error) :
      Fails launcher child task [] error
  /-- The log cannot be opened. -/
  | unopened {quiet : List Exchange} {exchange : Exchange} {cause : IoError}
      (idle : Idle (quiet ++ [exchange])) (fine : Flawless quiet)
      (failed : launcher.Unopened task cause exchange) :
      Fails launcher child task (quiet ++ [exchange]) (.io cause)
  /-- The process cannot be spawned. -/
  | unspawned {own : Environment} {quiet : List Exchange} {cause : IoError}
      (ready : task.own = .ok own) (idle : Idle quiet) (fine : Flawless quiet) :
      Fails launcher child task
        (quiet ++ [⟨.spawn child launcher.command (launcher.inherited.under own)
          (launcher.output task.seat), .error cause⟩])
        (.spawn task.process.rank cause)

/-- What is done for a task, and how that ends. -/
inductive Orders (launcher : Launcher) (child : Nat) (task : Task) :
    List Exchange → Except LaunchError Handle → Prop
  | fails {exchanges : List Exchange} {error : LaunchError}
      (fails : launcher.Fails child task exchanges error) :
      Orders launcher child task exchanges (.error error)
  /-- The process is spawned. -/
  | spawns {own : Environment} {quiet : List Exchange} (pid length : Nat)
      (ready : task.own = .ok own) (idle : Idle quiet) (fine : Flawless quiet) :
      Orders launcher child task
        (quiet ++ [⟨.spawn child launcher.command (launcher.inherited.under own)
          (launcher.output task.seat), .ok pid⟩])
        (.ok {
          child, pid
          role := task.role
          rank := task.process.rank
          slot := task.slot
          logPath := launcher.logPath task.seat
          logOpen := (launcher.logPath task.seat).isSome
          logOffset := length })

theorem Unopened.fails {task : Task} {cause : IoError} {exchange : Exchange}
    (failed : launcher.Unopened task cause exchange) : exchange.FailsToStart := by
  cases failed <;> rfl

/-- The log that is opened is that of the seat, and no step fails; or the last one does. -/
theorem runs_openLog {task : Task} {result : Except LaunchError OpenLog}
    (ran : Runs (launcher.openLog task) exchanges result) :
    (∃ log, result = .ok log ∧ log.path = launcher.logPath task.seat ∧ Flawless exchanges) ∨
      ∃ quiet exchange cause, exchanges = quiet ++ [exchange] ∧ result = .error (.io cause) ∧
        Flawless quiet ∧ launcher.Unopened task cause exchange := by
  unfold openLog at ran
  cases kept : launcher.logDir with
  | none =>
    simp only [kept] at ran
    obtain ⟨rfl, rfl⟩ := runs_pure.mp ran
    exact .inl ⟨_, rfl, by rw [logPath, kept]; rfl, flawless_nil⟩
  | some directory =>
    simp only [kept] at ran
    have there : launcher.logPath task.seat = some (logFile directory task.seat) := by
      rw [logPath, kept]
      rfl
    obtain ⟨created, rest, rfl, further⟩ := runs_ask.mp ran
    cases created with
    | error cause =>
      obtain ⟨rfl, rfl⟩ := runs_pure.mp further
      exact .inr ⟨[], _, cause, rfl, rfl, flawless_nil, .directory kept⟩
    | ok =>
      obtain ⟨opened, last, rfl, done⟩ := runs_ask.mp further
      cases opened with
      | error cause =>
        obtain ⟨rfl, rfl⟩ := runs_pure.mp done
        exact .inr ⟨[_], _, cause, rfl, rfl, .cons Bool.false_ne_true flawless_nil, .file there⟩
      | ok length =>
        obtain ⟨rfl, rfl⟩ := runs_pure.mp done
        refine .inl ⟨_, rfl, there.symm, .cons ?_ (.cons ?_ flawless_nil)⟩ <;>
          exact Bool.false_ne_true

/-- **To start a process is to spawn it with what its task says**, after things that have nothing to
do with processes. -/
theorem startOne_orders {child : Nat} {task : Task} {result : Except LaunchError Handle}
    (ran : Runs (launcher.startOne child task) exchanges result) :
    launcher.Orders child task exchanges result := by
  unfold startOne at ran
  split at ran
  · rename_i error lacks
    obtain ⟨rfl, rfl⟩ := runs_pure.mp ran
    exact .fails (.unready lacks)
  · rename_i own ready
    obtain ⟨told, second, _, rfl, reported, after⟩ := (runs_bind _ _ _ _).mp ran
    obtain ⟨opening, third, opened, rfl, openedLog, going⟩ := (runs_bind _ _ _ _).mp after
    have reports : Reports told := reported.asked (reportVariables_isReport task own)
    have quiet : Idle (told ++ opening) :=
      reports.idle.append (openedLog.asked (openLog_isIdle task))
    rw [← List.append_assoc]
    obtain ⟨⟨path, length⟩, rfl, there, fine⟩ | ⟨before, exchange, cause, rfl, rfl, fine, failed⟩ :=
      runs_openLog openedLog
    · obtain rfl : path = _ := there
      have flawless := reports.flawless.append fine
      obtain ⟨answer, rest, rfl, done⟩ := runs_ask.mp going
      cases answer with
      | error cause =>
        obtain ⟨rfl, rfl⟩ := runs_pure.mp done
        exact .fails (.unspawned ready quiet flawless)
      | ok pid =>
        obtain ⟨rfl, rfl⟩ := runs_pure.mp done
        exact .spawns pid length ready quiet flawless
    · obtain ⟨rfl, rfl⟩ := runs_pure.mp going
      rw [← List.append_assoc] at quiet
      rw [List.append_nil, ← List.append_assoc]
      exact .fails (.unopened quiet (reports.flawless.append fine) failed)

/-- Whatever is spawned for a task is its process. -/
theorem Orders.request {child : Nat} {task : Task} {result : Except LaunchError Handle}
    (orders : launcher.Orders child task exchanges result) {exchange : Exchange}
    (member : exchange ∈ exchanges) (spawns : ¬exchange.request.SpawnsNothing) :
    ∃ own, task.own = .ok own ∧ exchange.request = .spawn child launcher.command
      (launcher.inherited.under own) (launcher.output task.seat) := by
  have last {own : Environment} {quiet : List Exchange} {answer : Except IoError Nat}
      (ready : task.own = .ok own) (idle : Idle quiet)
      (member : exchange ∈ quiet ++ [⟨.spawn child launcher.command (launcher.inherited.under own)
        (launcher.output task.seat), answer⟩]) :
      ∃ own, task.own = .ok own ∧ exchange.request = .spawn child launcher.command
        (launcher.inherited.under own) (launcher.output task.seat) := by
    rcases List.mem_append.mp member with member | member
    · exact (spawns (idle exchange member).prompt.spawnsNothing).elim
    · rw [List.mem_singleton.mp member]
      exact ⟨own, ready, rfl⟩
  cases orders with
  | fails fails =>
    cases fails with
    | unready => cases member
    | unopened idle => exact (spawns (idle exchange member).prompt.spawnsNothing).elim
    | unspawned ready idle => exact last ready idle member
  | spawns pid length ready idle => exact last ready idle member

/-- Whatever is spawned for a list of tasks is the process of one of them; the number of the child
tells of which. -/
theorem startAll_orders {started : List Handle} {tasks : List Task}
    {outcome : Except LaunchError Unit × List Handle}
    (ran : Runs (launcher.startAll started tasks) exchanges outcome) {exchange : Exchange}
    (member : exchange ∈ exchanges) (spawns : ¬exchange.request.SpawnsNothing) :
    ∃ place task own, tasks[place]? = some task ∧ task.own = .ok own ∧
      exchange.request = .spawn (launcher.nextChild + started.length + place) launcher.command
        (launcher.inherited.under own) (launcher.output task.seat) := by
  induction tasks generalizing started exchanges with
  | nil =>
    rw [(runs_pure.mp ran).1] at member
    cases member
  | cons task tasks ih =>
    rw [startAll] at ran
    obtain ⟨first, second, result, rfl, tried, after⟩ := (runs_bind _ _ _ _).mp ran
    rcases List.mem_append.mp member with member | member
    · obtain ⟨own, ready, request⟩ := (startOne_orders tried).request member spawns
      exact ⟨0, task, own, rfl, ready, request⟩
    · cases result with
      | ok handle =>
        obtain ⟨place, other, own, here, ready, request⟩ := ih after member
        refine ⟨place + 1, other, own, here, ready, ?_⟩
        rw [request, List.length_append, List.length_singleton]
        congr 1
        omega
      | error error =>
        obtain ⟨discarding, nothing, _, rfl, discarded, done⟩ := (runs_bind _ _ _ _).mp after
        obtain ⟨rfl, -⟩ := runs_pure.mp done
        rw [List.append_nil] at member
        exact (spawns (discarded.asked (discardAll_spawnsNothing started) _ member)).elim

/-- **Whatever a start spawns is the process of one of its tasks.** -/
theorem Performs.orders {tasks : List Task} {outcome : Except LaunchError Unit × List Handle}
    (performs : launcher.Performs tasks exchanges outcome) {exchange : Exchange}
    (member : exchange ∈ exchanges) (spawns : ¬exchange.request.SpawnsNothing) :
    ∃ place task own, tasks[place]? = some task ∧ task.own = .ok own ∧
      exchange.request = .spawn (launcher.nextChild + place) launcher.command
        (launcher.inherited.under own) (launcher.output task.seat) := by
  cases performs with
  | unwritten cause quiet => exact (spawns (quiet _ member).prompt.spawnsNothing).elim
  | tried before after ran =>
    rcases List.mem_append.mp member with member | member
    · exact (spawns (before _ member).prompt.spawnsNothing).elim
    rcases List.mem_append.mp member with member | member
    · exact startAll_orders ran member spawns
    · exact (spawns (after _ member).prompt.spawnsNothing).elim

end Orders

section Fills

/-- When the list of the endpoints cannot be written, a step has failed. -/
theorem writeEndpoints_fails {cluster : Cluster} {error : LaunchError}
    (ran : Runs (launcher.writeEndpoints cluster) exchanges (.error error)) :
    ∃ exchange ∈ exchanges, exchange.FailsToStart := by
  unfold writeEndpoints at ran
  split at ran
  · cases (runs_pure.mp ran).2
  · obtain ⟨created, rest, rfl, after⟩ := runs_ask.mp ran
    cases created with
    | error cause => exact ⟨_, List.mem_cons_self, rfl⟩
    | ok =>
      obtain ⟨written, last, rfl, done⟩ := runs_ask.mp after
      cases written with
      | error cause => exact ⟨_, List.mem_cons_of_mem _ List.mem_cons_self, rfl⟩
      | ok => cases (runs_pure.mp done).2

/-- When it can be written, no step has failed. -/
theorem writeEndpoints_flawless {cluster : Cluster}
    (ran : Runs (launcher.writeEndpoints cluster) exchanges (.ok ())) : Flawless exchanges := by
  unfold writeEndpoints at ran
  split at ran
  · obtain ⟨rfl, -⟩ := runs_pure.mp ran
    exact flawless_nil
  · obtain ⟨created, rest, rfl, after⟩ := runs_ask.mp ran
    cases created with
    | error cause => cases (runs_pure.mp after).2
    | ok =>
      obtain ⟨written, last, rfl, done⟩ := runs_ask.mp after
      cases written with
      | error cause => cases (runs_pure.mp done).2
      | ok =>
        obtain ⟨rfl, -⟩ := runs_pure.mp done
        refine .cons ?_ (.cons ?_ flawless_nil) <;> exact Bool.false_ne_true

/-- A handle is that of the process at a post: the process was spawned with the variables of the
post, and writes to the log file of its seat, which the handle has open. -/
structure Fills (launcher : Launcher) (exchanges : List Exchange) (post : Post)
    (own : Except LaunchError Environment) (handle : Handle) : Prop where
  role : handle.role = post.role
  rank : handle.rank = post.process.rank
  slot : handle.slot = post.slot
  logPath : handle.logPath = launcher.logPath post.seat
  logOpen : handle.logOpen = handle.logPath.isSome
  spawned : ∃ settled, own = .ok settled ∧
    ⟨.spawn handle.child launcher.command (launcher.inherited.under settled)
      (launcher.output post.seat), .ok handle.pid⟩ ∈ exchanges

variable {post : Post} {own : Except LaunchError Environment} {handle : Handle}

theorem Fills.mono (fills : launcher.Fills exchanges post own handle) {more : List Exchange}
    (within : exchanges ⊆ more) : launcher.Fills more post own handle :=
  let ⟨settled, known, member⟩ := fills.spawned
  { fills with spawned := ⟨settled, known, within member⟩ }

/-- In lists that are related member by member, whatever is on the right is related to something on
the left. -/
theorem exists_mem_of_forall₂ {relation : α → β → Prop} {left : List α} {right : List β}
    (related : List.Forall₂ relation left right) {value : β} (member : value ∈ right) :
    ∃ other ∈ left, relation other value := by
  induction related with
  | nil => cases member
  | cons here _ ih =>
    rcases List.mem_cons.mp member with rfl | member
    · exact ⟨_, List.mem_cons_self, here⟩
    · obtain ⟨other, inside, there⟩ := ih member
      exact ⟨other, List.mem_cons_of_mem _ inside, there⟩

/-- What a task has got, when it has got something. -/
theorem Orders.filled {child : Nat} {task : Task}
    (orders : launcher.Orders child task exchanges (.ok handle)) :
    handle.child = child ∧ launcher.Fills exchanges task.post task.own handle ∧
      attempts exchanges = [child] ∧ spawned exchanges = [child] := by
  cases orders with
  | @spawns own quiet pid length known idle fine =>
    refine ⟨rfl, ⟨rfl, rfl, rfl, rfl, rfl, own, known, ?_⟩, ?_, ?_⟩
    · exact List.mem_append_right quiet List.mem_cons_self
    · rw [attempts_append, idle.attempts]
      rfl
    · rw [spawned_append, idle.spawned]
      rfl

/-- When a task has got something, no step has failed. -/
theorem Orders.flawless {child : Nat} {task : Task}
    (orders : launcher.Orders child task exchanges (.ok handle)) : Flawless exchanges := by
  cases orders with
  | spawns pid length known idle fine => exact fine.append (.cons Bool.false_ne_true flawless_nil)

/-- When no step fails, a task that has variables gets something. -/
theorem Orders.succeeds {child : Nat} {task : Task} {result : Except LaunchError Handle}
    (orders : launcher.Orders child task exchanges result) (ready : task.IsReady)
    (fine : ∀ exchange ∈ exchanges, ¬exchange.FailsToStart) : ∃ handle, result = .ok handle := by
  cases orders with
  | spawns pid length known idle => exact ⟨_, rfl⟩
  | fails fails =>
    cases fails with
    | unready lacks => exact (ready.not_refused lacks).elim
    | @unopened quiet _ _ idle _ failed =>
      exact (fine _ (List.mem_append_right quiet List.mem_cons_self) failed.fails).elim
    | @unspawned _ quiet =>
      exact (fine _ (List.mem_append_right quiet List.mem_cons_self) rfl).elim

/-- **A start that goes well gets every task its process**, in the order of the tasks, and nothing
else is spawned. -/
theorem startAll_filled {started handles : List Handle} {tasks : List Task}
    (ran : Runs (launcher.startAll started tasks) exchanges (.ok (), handles)) :
    ∃ new, handles = started ++ new ∧
      List.Forall₂ (fun task => launcher.Fills exchanges task.post task.own) tasks new ∧
      new.map Handle.child = List.range' (launcher.nextChild + started.length) new.length ∧
      attempts exchanges = new.map Handle.child ∧ spawned exchanges = new.map Handle.child := by
  induction tasks generalizing started exchanges with
  | nil =>
    obtain ⟨rfl, same⟩ := runs_pure.mp ran
    cases same
    exact ⟨[], (List.append_nil _).symm, .nil, rfl, rfl, rfl⟩
  | cons task tasks ih =>
    rw [startAll] at ran
    obtain ⟨first, second, result, rfl, tried, after⟩ := (runs_bind _ _ _ _).mp ran
    cases result with
    | error error =>
      obtain ⟨_, _, _, rfl, -, done⟩ := (runs_bind _ _ _ _).mp after
      cases (runs_pure.mp done).2
    | ok handle =>
      obtain ⟨child, fills, attempted, begun⟩ := (startOne_orders tried).filled
      obtain ⟨new, rfl, filled, children, others, rest⟩ := ih after
      rw [List.length_append, List.length_singleton, ← Nat.add_assoc] at children
      refine ⟨handle :: new, by rw [List.append_assoc]; rfl, .cons ?_ ?_, ?_, ?_, ?_⟩
      · exact fills.mono (List.subset_append_left _ _)
      · exact filled.imp fun _ _ fills => fills.mono (List.subset_append_right _ _)
      · rw [List.map_cons, child, children, List.length_cons, List.range'_succ]
      · rw [attempts_append, attempted, others, List.map_cons, child, List.singleton_append]
      · rw [spawned_append, begun, rest, List.map_cons, child, List.singleton_append]

/-- In a start that goes well no step fails. -/
theorem startAll_flawless {started handles : List Handle} {tasks : List Task}
    (ran : Runs (launcher.startAll started tasks) exchanges (.ok (), handles)) :
    Flawless exchanges := by
  induction tasks generalizing started exchanges with
  | nil =>
    obtain ⟨rfl, -⟩ := runs_pure.mp ran
    exact flawless_nil
  | cons task tasks ih =>
    rw [startAll] at ran
    obtain ⟨first, second, result, rfl, tried, after⟩ := (runs_bind _ _ _ _).mp ran
    cases result with
    | ok handle => exact (startOne_orders tried).flawless.append (ih after)
    | error error =>
      obtain ⟨_, _, _, rfl, -, done⟩ := (runs_bind _ _ _ _).mp after
      cases (runs_pure.mp done).2

/-- **When no step fails, a start goes well.** -/
theorem startAll_succeeds {started : List Handle} {tasks : List Task}
    {outcome : Except LaunchError Unit × List Handle}
    (ran : Runs (launcher.startAll started tasks) exchanges outcome)
    (ready : ∀ task ∈ tasks, task.IsReady)
    (fine : ∀ exchange ∈ exchanges, ¬exchange.FailsToStart) : outcome.1 = .ok () := by
  induction tasks generalizing started exchanges with
  | nil => rw [(runs_pure.mp ran).2]
  | cons task tasks ih =>
    rw [startAll] at ran
    obtain ⟨first, second, result, rfl, tried, after⟩ := (runs_bind _ _ _ _).mp ran
    obtain ⟨here, later⟩ := List.forall_mem_append.mp fine
    obtain ⟨known, others⟩ := List.forall_mem_cons.mp ready
    obtain ⟨handle, rfl⟩ := (startOne_orders tried).succeeds known here
    exact ih after others later

/-- The course of a start that goes well gets every task its process, and spawns nothing else. -/
theorem Courses.filled {cluster : Cluster} {tasks : List Task} {handles : List Handle}
    (courses : launcher.Courses cluster tasks exchanges (.ok (), handles)) :
    List.Forall₂ (fun task => launcher.Fills exchanges task.post task.own) tasks handles ∧
      handles.map Handle.child = List.range' launcher.nextChild handles.length ∧
      attempts exchanges = handles.map Handle.child ∧
      spawned exchanges = handles.map Handle.child := by
  cases courses with
  | @written writing early during late _ wrote before after started =>
    obtain ⟨_, rfl, filled, children, attempted, begun⟩ := startAll_filled started
    have written : Idle writing := wrote.asked (writeEndpoints_isIdle cluster)
    have within : during ⊆ writing ++ (early ++ (during ++ late)) := fun exchange member =>
      List.mem_append_right _ (List.mem_append_right _ (List.mem_append_left _ member))
    refine ⟨filled.imp fun _ _ fills => fills.mono within, children, ?_, ?_⟩
    · rw [attempts_append, attempts_append, attempts_append, written.attempts,
        before.idle.attempts, after.idle.attempts, attempted, List.nil_append, List.nil_append,
        List.append_nil]
    · rw [spawned_append, spawned_append, spawned_append, written.spawned,
        before.idle.spawned, after.idle.spawned, begun, List.nil_append, List.nil_append,
        List.append_nil]

/-- When every task is ready and no step fails, a start goes well. -/
theorem Courses.succeeds {cluster : Cluster} {tasks : List Task}
    {outcome : Except LaunchError Unit × List Handle}
    (courses : launcher.Courses cluster tasks exchanges outcome)
    (ready : ∀ task ∈ tasks, task.IsReady) (fine : Flawless exchanges) : outcome.1 = .ok () := by
  cases courses with
  | unwritten failed =>
    obtain ⟨exchange, member, fails⟩ := writeEndpoints_fails failed
    exact (fine exchange member fails).elim
  | written wrote told reported ran =>
    refine startAll_succeeds ran ready fun exchange member => fine exchange ?_
    exact List.mem_append_right _ (List.mem_append_right _ (List.mem_append_left _ member))

end Fills

end Launcher

end TrainingLauncher
