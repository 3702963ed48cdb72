/-
Process control, seen from the children: which exchanges tell that a child has ended, and which ones
signal it.

* `Settled exchanges child`: the child has answered an exit code or was stopped by force.
* `SparesEnded`: no child is signalled once it is known to have ended.
* `KeepsExitCodes`: what is expected of the machine: a child that has answered a poll with an exit
  code answers every later one with the same code.
* `Guarded.sparesEnded`: on such a machine it is enough to signal a child only directly after a poll
  that has found no exit code, and to wait for none.
-/

import TrainingLauncher.Proofs.Exchange

namespace TrainingLauncher

open Program

/-- The exit code in the answer to a poll, if there is one. -/
def exitCode? : Except IoError (Option Int) → Option Int
  | .ok status => status
  | .error _ => none

theorem eq_ok_of_exitCode? {seen : Except IoError (Option Int)} {code : Int}
    (same : exitCode? seen = some code) : seen = .ok (some code) := by
  cases seen with
  | ok status => exact congrArg _ same
  | error error => cases same

namespace Program.Exchange

/-- A child has answered an exit code, to a poll or to somebody who waited for it. -/
def Ends (exchange : Exchange) (child : Nat) : Prop :=
  ∃ code, exchange = ⟨.poll child, .ok (some code)⟩ ∨ exchange = ⟨.wait child, .ok code⟩

/-- A child is signalled: it is asked to stop or stopped by force. -/
def Signals (exchange : Exchange) (child : Nat) : Prop :=
  exchange.request = .terminate child ∨ exchange.request = .kill child

/-- A poll tells that its child has ended when the answer has an exit code. -/
theorem ends_poll {child other : Nat} {seen : Except IoError (Option Int)} :
    (⟨.poll child, seen⟩ : Exchange).Ends other ↔
      child = other ∧ ∃ code, seen = .ok (some code) := by
  constructor
  · rintro ⟨code, same | same⟩
    · simp only [Exchange.mk.injEq, Request.poll.injEq] at same
      obtain ⟨rfl, same⟩ := same
      exact ⟨rfl, code, eq_of_heq same⟩
    · simp at same
  · rintro ⟨rfl, code, rfl⟩
    exact ⟨code, .inl rfl⟩

end Program.Exchange

section Settled

/-- A child has answered an exit code. -/
def Ended (exchanges : List Exchange) (child : Nat) : Prop :=
  ∃ exchange ∈ exchanges, exchange.Ends child

/-- A child has answered an exit code or was stopped by force, whether that helped or not. -/
def Settled (exchanges : List Exchange) (child : Nat) : Prop :=
  Ended exchanges child ∨ ∃ exchange ∈ exchanges, exchange.request = .kill child

variable {first second : List Exchange} {child : Nat}

theorem Ended.mono (ended : Ended first child) (within : first ⊆ second) : Ended second child :=
  let ⟨exchange, member, ends⟩ := ended
  ⟨exchange, within member, ends⟩

theorem Settled.mono (settled : Settled first child) (within : first ⊆ second) :
    Settled second child :=
  settled.imp (fun ended => ended.mono within)
    fun ⟨exchange, member, kills⟩ => ⟨exchange, within member, kills⟩

theorem calls_subset (exchanges : List Exchange) : calls exchanges ⊆ exchanges :=
  List.filter_sublist.subset

end Settled

section Spares

/-- No child is signalled at all. -/
def Unsignalled (exchanges : List Exchange) : Prop :=
  ∀ exchange ∈ exchanges, ∀ child, ¬ exchange.Signals child

theorem Unsignalled.append {first second : List Exchange} (one : Unsignalled first)
    (other : Unsignalled second) : Unsignalled (first ++ second) := fun exchange member =>
  (List.mem_append.mp member).elim (one exchange) (other exchange)

theorem Unsignalled.cons {exchange : Exchange} {rest : List Exchange}
    (harmless : exchange.request.controlled? = none) (quiet : Unsignalled rest) :
    Unsignalled (exchange :: rest) := by
  intro other member child signals
  rcases List.mem_cons.mp member with rfl | member
  · rcases signals with same | same <;> rw [same] at harmless <;> cases harmless
  · exact quiet other member child signals

/-- Only process control signals. -/
theorem unsignalled_calls {exchanges : List Exchange} :
    Unsignalled (calls exchanges) ↔ Unsignalled exchanges := by
  refine ⟨fun quiet exchange member child signals => ?_,
    fun quiet exchange member => quiet exchange (calls_subset exchanges member)⟩
  refine quiet exchange (List.mem_filter.mpr ⟨member, ?_⟩) child signals
  rcases signals with same | same <;> rw [same] <;> rfl

theorem unsignalled_nil : Unsignalled [] := fun _ member => by cases member

/-- No child is signalled once it has answered an exit code. -/
def SparesEnded (exchanges : List Exchange) : Prop :=
  exchanges.Pairwise fun earlier later => ∀ child, earlier.Ends child → ¬ later.Signals child

/-- Whoever has ended in the first part of what spares the ended is not signalled in the second. -/
theorem SparesEnded.afterwards {before after : List Exchange} {child : Nat}
    (spares : SparesEnded (before ++ after)) (ended : Ended before child) :
    ∀ exchange ∈ after, ¬exchange.Signals child := by
  obtain ⟨earlier, member, ends⟩ := ended
  obtain ⟨-, -, apart⟩ := List.pairwise_append.mp spares
  exact fun later inside => apart earlier member later inside child ends

/-- A child that has answered a poll with an exit code answers later polls with the same code. -/
def KeepsExitCodes (exchanges : List Exchange) : Prop :=
  exchanges.Pairwise fun earlier later => ∀ child code answer,
    earlier = ⟨.poll child, .ok (some code)⟩ → later = ⟨.poll child, answer⟩ →
      answer = .ok (some code)

/-- The child of a poll, and the exit code in the answer. -/
def told? : Exchange → Option (Nat × Option Int)
  | ⟨.poll child, answer⟩ => some (child, exitCode? answer)
  | _ => none

/-- Whether exit codes are kept can be seen from what the polls have told. -/
theorem keepsExitCodes_of_told {exchanges : List Exchange}
    (kept : (exchanges.filterMap told?).Pairwise fun earlier later =>
      earlier.1 = later.1 → earlier.2.isSome → later.2 = earlier.2) :
    KeepsExitCodes exchanges := by
  rw [List.pairwise_filterMap] at kept
  refine kept.imp fun {earlier later} repeats child code answer first second => ?_
  subst first second
  exact eq_ok_of_exitCode? (repeats _ rfl _ rfl rfl rfl)

/-- Only process control signals, and only process control tells of an end. -/
theorem sparesEnded_calls {exchanges : List Exchange} :
    SparesEnded (calls exchanges) ↔ SparesEnded exchanges := by
  unfold SparesEnded calls
  rw [List.pairwise_filter]
  refine ⟨fun spares => spares.imp fun {earlier later} apart child ends signals => ?_,
    fun spares => spares.imp fun apart _ _ => apart⟩
  refine apart ?_ ?_ child ends signals
  · obtain ⟨code, rfl | rfl⟩ := ends <;> rfl
  · rcases signals with same | same <;> rw [same] <;> rfl

theorem KeepsExitCodes.calls {exchanges : List Exchange} (kept : KeepsExitCodes exchanges) :
    KeepsExitCodes (calls exchanges) :=
  kept.filter _

end Spares

/-- The exchange in which a child is signalled by one of the two means. -/
def Means.exchange (means : Means) (child : Nat) (reply : Except IoError Unit) : Exchange :=
  match means with
  | .ask => ⟨.terminate child, reply⟩
  | .force => ⟨.kill child, reply⟩

theorem Means.exchange_signals (means : Means) (child : Nat) (reply : Except IoError Unit)
    (other : Nat) : (means.exchange child reply).Signals other ↔ child = other := by
  cases means <;> simp [Means.exchange, Exchange.Signals]

theorem runs_stop {handle : Handle} {means : Means} {exchanges : List Exchange}
    {reply : Except IoError Unit} :
    Runs (handle.stop means) exchanges reply ↔
      exchanges = [means.exchange handle.child reply] := by
  cases means <;> exact runs_request

section Guarded

/-- Process control in which every signal goes to a child whose poll just before has found no exit
code, and in which no child is waited for. -/
inductive Guarded : List Exchange → Prop
  | nil : Guarded []
  | poll (child : Nat) (seen : Except IoError (Option Int)) {rest : List Exchange}
      (guarded : Guarded rest) : Guarded (⟨.poll child, seen⟩ :: rest)
  | signal (child : Nat) (seen : Except IoError (Option Int)) (means : Means)
      (reply : Except IoError Unit) {rest : List Exchange} (running : exitCode? seen = none)
      (guarded : Guarded rest) :
      Guarded (⟨.poll child, seen⟩ :: means.exchange child reply :: rest)

variable {exchanges later : List Exchange}

theorem Guarded.append (first : Guarded exchanges) (second : Guarded later) :
    Guarded (exchanges ++ later) := by
  induction first with
  | nil => exact second
  | poll child seen _ ih => exact .poll child seen ih
  | signal child seen means reply running _ ih => exact .signal child seen means reply running ih

/-- Whoever is signalled was polled before, and had no exit code. -/
theorem Guarded.polled_of_signals (guarded : Guarded exchanges) {exchange : Exchange} {child : Nat}
    (member : exchange ∈ exchanges) (signals : exchange.Signals child) :
    ∃ seen, ⟨.poll child, seen⟩ ∈ exchanges ∧ exitCode? seen = none := by
  induction guarded with
  | nil => cases member
  | poll other seen _ ih =>
    rcases List.mem_cons.mp member with rfl | member
    · simp [Exchange.Signals] at signals
    · obtain ⟨found, polled, running⟩ := ih member
      exact ⟨found, List.mem_cons_of_mem _ polled, running⟩
  | signal other seen means reply running _ ih =>
    rcases List.mem_cons.mp member with rfl | member
    · simp [Exchange.Signals] at signals
    rcases List.mem_cons.mp member with rfl | member
    · rw [Means.exchange_signals] at signals
      subst signals
      exact ⟨seen, List.mem_cons_self, running⟩
    · obtain ⟨found, polled, running⟩ := ih member
      exact ⟨found, List.mem_cons_of_mem _ (List.mem_cons_of_mem _ polled), running⟩

/-- After a poll that was answered with an exit code nothing guarded signals the child: it would
have been polled again, and the machine would have repeated the code. -/
theorem Guarded.spares_polled (guarded : Guarded later) {child : Nat}
    {seen : Except IoError (Option Int)}
    (kept : KeepsExitCodes (⟨.poll child, seen⟩ :: later)) :
    ∀ exchange ∈ later, ∀ other, (⟨.poll child, seen⟩ : Exchange).Ends other →
      ¬ exchange.Signals other := by
  intro exchange member other ends signals
  obtain ⟨rfl, code, rfl⟩ := Exchange.ends_poll.mp ends
  obtain ⟨found, polled, running⟩ := guarded.polled_of_signals member signals
  have repeated := List.rel_of_pairwise_cons kept polled child code found rfl rfl
  rw [repeated] at running
  cases running

/-- **Guarded process control spares the ended**, on a machine that keeps exit codes. -/
theorem Guarded.sparesEnded (guarded : Guarded exchanges) (kept : KeepsExitCodes exchanges) :
    SparesEnded exchanges := by
  induction guarded with
  | nil => exact .nil
  | poll child seen guarded ih => exact .cons (guarded.spares_polled kept) (ih kept.tail)
  | signal child seen means reply running guarded ih =>
    -- neither the poll, which found no exit code, nor the signal tells of an end
    refine .cons (fun exchange _ other ends => ?_) (.cons (fun exchange _ other ends => ?_)
      (ih kept.tail.tail))
    · obtain ⟨-, code, rfl⟩ := Exchange.ends_poll.mp ends
      cases running
    · obtain ⟨code, same | same⟩ := ends <;> cases means <;> simp [Means.exchange] at same

end Guarded

end TrainingLauncher
