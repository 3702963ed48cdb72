/-
The steps of a job, seen from what they leave behind. A job is a program that may stop early; a
sequence of steps stops at the first that does.

* `Job.runs_run_bind`: a sequence has stopped in its first step, or has gone on after it.
* `Job.runs_attempt`, `Job.runs_start`, `Job.runs_supervise`, `Job.runs_report`: the single steps.
-/

import TrainingLauncher.Job
import TrainingLauncher.Proofs.Exchange

namespace TrainingLauncher.Job

open Program

variable {exchanges : List Exchange}

section Sequence

/-- **A sequence stops at the first step that does.** -/
theorem runs_run_bind {step : Run α} {next : α → Run β} {result : Except Stop β} :
    Runs (step >>= next).run exchanges result ↔
      (∃ stop, result = .error stop ∧ Runs step.run exchanges (.error stop)) ∨
        ∃ first second value, exchanges = first ++ second ∧ Runs step.run first (.ok value) ∧
          Runs (next value).run second result := by
  rw [ExceptT.run_bind, runs_bind]
  constructor
  · rintro ⟨first, second, value | value, rfl, ran, rest⟩
    · obtain ⟨rfl, rfl⟩ := runs_pure.mp rest
      exact .inl ⟨value, rfl, by rwa [List.append_nil]⟩
    · exact .inr ⟨first, second, value, rfl, ran, rest⟩
  · rintro (⟨stop, rfl, ran⟩ | ⟨first, second, value, rfl, ran, rest⟩)
    · exact ⟨exchanges, [], .error stop, (List.append_nil _).symm, ran, runs_pure.mpr ⟨rfl, rfl⟩⟩
    · exact ⟨first, second, .ok value, rfl, ran, rest⟩

end Sequence

section Steps

theorem runs_report {severity : Severity} {text : String} {result : Except Stop Unit}
    (ran : Runs (report severity text).run exchanges result) :
    Idle exchanges ∧ result = .ok () := by
  obtain ⟨first, second, _, rfl, told, done⟩ := (runs_bind _ _ _ _).mp ran
  obtain ⟨rfl, rfl⟩ := runs_pure.mp done
  rw [List.append_nil]
  exact ⟨told.asked (report_asks _ _ trivial), rfl⟩

theorem runs_attempt {step : Program (Except LaunchError α)} {result : Except Stop α}
    (ran : Runs (attempt step).run exchanges result) :
    ∃ answer, Runs step exchanges answer ∧ result = answer.mapError .failed := by
  obtain ⟨first, second, answer, rfl, tried, done⟩ := (runs_bind _ _ _ _).mp ran
  obtain ⟨rfl, rfl⟩ := runs_pure.mp done
  exact ⟨answer, by rwa [List.append_nil], rfl⟩

theorem runs_start {startup : Program (Except LaunchError Unit × List Handle)}
    {result : Except Stop (List Handle)} (ran : Runs (start startup).run exchanges result) :
    (∃ handles, result = .ok handles ∧ Runs startup exchanges (.ok (), handles)) ∨
      ∃ error handles, result = .error (.failed error) ∧
        Runs startup exchanges (.error error, handles) := by
  obtain ⟨first, second, ⟨started | started, handles⟩, rfl, tried, done⟩ :=
    (runs_bind _ _ _ _).mp ran
  · obtain ⟨rfl, rfl⟩ := runs_pure.mp done
    exact .inr ⟨started, handles, rfl, by rwa [List.append_nil]⟩
  · obtain ⟨rfl, rfl⟩ := runs_pure.mp done
    exact .inl ⟨handles, rfl, by rwa [List.append_nil]⟩

theorem runs_supervise {supervision : Program (Except Stop Unit × List Handle)}
    {result : Except Stop (List Handle)} (ran : Runs (supervise supervision).run exchanges result) :
    (∃ handles, result = .ok handles ∧ Runs supervision exchanges (.ok (), handles)) ∨
      ∃ stop handles, result = .error stop ∧ Runs supervision exchanges (.error stop, handles) := by
  obtain ⟨first, second, ⟨ended | ended, handles⟩, rfl, supervised, done⟩ :=
    (runs_bind _ _ _ _).mp ran
  · obtain ⟨rfl, rfl⟩ := runs_pure.mp done
    exact .inr ⟨ended, handles, rfl, by rwa [List.append_nil]⟩
  · obtain ⟨rfl, rfl⟩ := runs_pure.mp done
    exact .inl ⟨handles, rfl, by rwa [List.append_nil]⟩

end Steps

end TrainingLauncher.Job
