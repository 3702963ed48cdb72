/-
A cast of processes that follow their scripts, in step with the passes of the supervision. As long
as every pass polls every process, the pass after `count` others finds each process as its script
has it after `count` polls.

* `Actor`: a process of the launcher with its script.
* `firstFailure`, `lastEnd`, `failedAt`: when the cast fails, when it is done, and who fails when.
* `InStep.pass`: what a pass finds of a cast that is in step with it.
-/

import TrainingLauncher.Proofs.Script

namespace TrainingLauncher

open Program Rehearsal Supervision

/-- A process that the launcher has started and the script that it follows. Its polls do not
fail. -/
structure Actor where
  handle : Handle
  behavior : Behavior
  reliable : behavior.pollErrors = []

namespace Actor

/-- How many polls find the process running before it ends by itself. -/
def lasts (actor : Actor) : ℕ∞ := actor.behavior.lasts

/-- The exit code with which it then ends. -/
def code (actor : Actor) : Int := actor.behavior.exitCode

/-- That exit code counts as a failure. -/
def fails (actor : Actor) : Bool := actor.code ≠ 0

/-- What a poll finds after so many others. -/
def status (actor : Actor) (count : Nat) : Option Int := actor.behavior.status count

/-- The process, as one that has failed. -/
def failure (actor : Actor) : FailedProcess := actor.handle.failure actor.code

/-- The child follows the script from its start on. -/
def Plays (actor : Actor) (exchanges : List Exchange) : Prop :=
  ∃ command environment, Rehearsal.Plays actor.handle.child
    (.start actor.handle.pid actor.behavior command environment) exchanges

/-- A trainer of a rank, as the child of that number. -/
def trainer (rank : Nat) (runsFor : Option Nat) (exitCode : Int) : Actor where
  handle := Stage.trainer rank
  behavior := .plain runsFor exitCode
  reliable := rfl

end Actor

section Schedule

variable {keepsAlive : Role → Bool} {actors : List Actor} {count : Nat}

/-- The survey of a cast after so many polls of everybody. -/
def surveyAt (keepsAlive : Role → Bool) (actors : List Actor) (count : Nat) : Survey :=
  summary keepsAlive (actors.map Actor.handle) (actors.map (·.status count))

end Schedule

section Step

variable {keepsAlive : Role → Bool} {actors : List Actor} {count : Nat}
  {controls rest : List Exchange} {found : Except IoError Survey}

/-- Everybody is in step after so many passes: polled so often, and playing on in what follows. -/
def InStep (actors : List Actor) (count : Nat) (exchanges : List Exchange) : Prop :=
  ∀ actor ∈ actors, ∃ process, OfAge actor.behavior count process ∧
    Rehearsal.Plays actor.handle.child process exchanges

/-- At the start everybody is in step. -/
theorem InStep.start {exchanges : List Exchange}
    (played : ∀ actor ∈ actors, actor.Plays exchanges) :
    InStep actors 0 (calls exchanges) := by
  intro actor member
  obtain ⟨command, environment, plays⟩ := played actor member
  exact ⟨_, .start _ _ command environment, plays.calls⟩

/-- The polls of those in step find what the scripts have for this pass. -/
theorem InStep.polled {answers : List (Except IoError (Option Int))} {slot : Nat} {actor : Actor}
    (distinct : (actors.map (·.handle.child)).Nodup)
    (inStep : InStep actors count (polling (actors.map (·.handle.child)) answers ++ rest))
    (here : actors[slot]? = some actor) (reached : slot < answers.length) :
    answers[slot]? = some (.ok (actor.status count)) ∧
      ∃ process, OfAge actor.behavior (count + 1) process ∧
        Rehearsal.Plays actor.handle.child process rest := by
  obtain ⟨process, aged, plays⟩ := inStep actor (List.mem_of_getElem? here)
  obtain ⟨found, older⟩ := aged.poll actor.reliable
  have child : (actors.map (·.handle.child))[slot]? = some actor.handle.child := by
    rw [List.getElem?_map, here]
    rfl
  obtain ⟨said, resumed⟩ := plays.polled distinct child reached
  exact ⟨said.trans (congrArg some found), _, older, resumed⟩

/-- **What a pass finds of a cast that is in step with it**: exactly what the scripts have for it;
and everybody stays in step. -/
theorem InStep.pass (distinct : (actors.map (·.handle.child)).Nodup)
    (inStep : InStep actors count (controls ++ rest))
    (polled : Polled keepsAlive (actors.map Actor.handle) controls found) :
    found = .ok (surveyAt keepsAlive actors count) ∧ InStep actors (count + 1) rest := by
  cases polled with
  | all statuses complete =>
    rw [List.length_map] at complete
    rw [List.map_map] at inStep
    have answered {slot : Nat} {actor : Actor} (here : actors[slot]? = some actor) :=
      inStep.polled distinct here (by
        rw [List.length_map, complete]
        exact (List.getElem?_eq_some_iff.mp here).1)
    have same : statuses = actors.map (·.status count) := by
      refine List.ext_getElem? fun slot => ?_
      rw [List.getElem?_map]
      cases here : actors[slot]? with
      | none => exact List.getElem?_eq_none (complete ▸ List.getElem?_eq_none_iff.mp here)
      | some actor => simpa using (answered here).1
    refine ⟨by rw [same, surveyAt], fun actor member => ?_⟩
    obtain ⟨slot, here⟩ := List.mem_iff_getElem?.mp member
    exact (answered here).2
  | refused statuses error early =>
    -- the process whose poll was refused would have answered
    rw [List.length_map] at early
    rw [List.map_map] at inStep
    have here := List.getElem?_eq_getElem early
    have said := (inStep.polled distinct here (by simp)).1
    simp at said

end Step

end TrainingLauncher
