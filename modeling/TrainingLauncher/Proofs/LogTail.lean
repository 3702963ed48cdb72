/-
Looking after a log. Whatever becomes of the reading and the forwarding, a pull has nothing to do
with the processes, and of what the launcher keeps about a process it changes only the place in the
log.

* `Handle.bare`: a handle without the state of its log.
* `LogTail.pull_isTailing`, `LogTail.runs_pull`: the two halves of this.
-/

import TrainingLauncher.LogTail
import TrainingLauncher.Proofs.Control

namespace TrainingLauncher

open Program

/-- The handle without the state of its log. -/
def Handle.bare (handle : Handle) : Handle := { handle with logOpen := false, logOffset := 0 }

/-- Handles that agree but for their logs are those of the same children. -/
theorem map_child_of_bare {handles others : List Handle}
    (same : others.map Handle.bare = handles.map Handle.bare) :
    others.map Handle.child = handles.map Handle.child := by
  have children := congrArg (List.map Handle.child) same
  rw [List.map_map, List.map_map] at children
  exact children

namespace LogTail

theorem forwardAll_isTailing (pieces : List ByteArray) :
    (forwardAll pieces).Asks Request.IsTailing := by
  induction pieces with
  | nil => exact asks_pure _
  | cons piece rest ih =>
    refine asks_bind (asks_request trivial) fun answer => ?_
    cases answer with
    | ok => exact ih
    | error error => exact asks_pure _

theorem forward_isTailing (bytes : ByteArray) : (forward bytes).Asks Request.IsTailing := by
  refine asks_bind (forwardAll_isTailing _) fun forwarded => ?_
  cases forwarded with
  | error error => exact asks_pure _
  | ok =>
    refine asks_bind (asks_request trivial) fun flushed => ?_
    cases flushed <;> exact asks_pure _

theorem pull_isTailing (handle : Handle) : (pull handle).Asks Request.IsTailing := by
  unfold pull
  split
  · exact asks_pure _
  · refine asks_bind (asks_request trivial) fun read => ?_
    cases read with
    | error error => exact asks_pure _
    | ok bytes =>
      refine asks_bind (forward_isTailing bytes) fun count => ?_
      cases count <;> exact asks_pure _

/-- A pull moves on in the log and changes nothing else. -/
theorem runs_pull {handle : Handle} {exchanges : List Exchange}
    {outcome : Except IoError Unit × Handle} (ran : Runs (pull handle) exchanges outcome) :
    outcome.2.bare = handle.bare := by
  unfold pull at ran
  split at ran
  · obtain ⟨-, rfl⟩ := runs_pure.mp ran
    rfl
  · obtain ⟨read, rest, rfl, after⟩ := runs_ask.mp ran
    cases read with
    | error error =>
      obtain ⟨-, rfl⟩ := runs_pure.mp after
      rfl
    | ok bytes =>
      obtain ⟨first, second, count, rfl, -, done⟩ := (runs_bind _ _ _ _).mp after
      cases count with
      | error error =>
        obtain ⟨-, rfl⟩ := runs_pure.mp done
        rfl
      | ok count =>
        obtain ⟨-, rfl⟩ := runs_pure.mp done
        rfl

end LogTail

end TrainingLauncher
