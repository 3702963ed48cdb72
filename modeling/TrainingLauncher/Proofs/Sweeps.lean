/-
How a termination proceeds, sweep by sweep. The first sweep asks everybody to stop who has not
ended; the kill rounds stop by force; a last sweep only looks. Each of them polls every process
once, and the next one follows only when somebody was found running.

* `kills`: the children that were stopped by force.
* `Termination.pending`: the processes that have shown no exit code to a sweep.
* `Termination.Swept`: what a sweep is told and whom it signals.
* `Termination.Drains`: how sweeps follow each other until nobody is left or no sweep is.
* `Termination.run_proceeds`: the course of a termination, and that nothing is left to do for a
  second one.
-/

import TrainingLauncher.Proofs.Shutdown

namespace TrainingLauncher

open Program Rehearsal

section Kills

/-- The child that an exchange stops by force. -/
def killed? : Exchange → Option Nat
  | ⟨.kill child, _⟩ => some child
  | _ => none

/-- The children that were stopped by force, as often as they were. -/
def kills (exchanges : List Exchange) : List Nat := exchanges.filterMap killed?

@[simp] theorem kills_append {first second : List Exchange} :
    kills (first ++ second) = kills first ++ kills second :=
  List.filterMap_append

/-- Only process control stops by force. -/
theorem kills_calls (exchanges : List Exchange) : kills (calls exchanges) = kills exchanges := by
  refine filterMap_calls ?_ exchanges
  rintro ⟨request, answer⟩ uncontrolled
  cases request <;> first | rfl | cases uncontrolled

/-- Whoever is told of was polled, and what is told of it is the exit code in the answer. -/
theorem exists_poll_of_told {exchanges : List Exchange} {child : Nat} {code : Option Int}
    (told : (child, code) ∈ exchanges.filterMap told?) :
    ∃ answer, ⟨.poll child, answer⟩ ∈ exchanges ∧ exitCode? answer = code := by
  obtain ⟨⟨request, answer⟩, member, same⟩ := List.mem_filterMap.mp told
  cases request with
  | poll other => cases same; exact ⟨answer, member, rfl⟩
  | _ => cases same

/-- What has nothing to do with processes, with the clock or with the flag is seen by none of these
views. -/
theorem Idle.unseen {exchanges : List Exchange} (idle : Idle exchanges) :
    exchanges.filterMap told? = [] ∧ terminations exchanges = [] ∧ kills exchanges = [] ∧
      pauses exchanges = [] := by
  have prompt : Prompt exchanges := fun exchange member => (idle exchange member).prompt
  refine ⟨?_, ?_, ?_, prompt.pauses⟩
  · rw [← told_calls, idle.calls]; rfl
  · rw [← terminations_calls, idle.calls]; rfl
  · rw [← kills_calls, idle.calls]; rfl

end Kills

namespace Termination

/-- What a sweep is told: the exit code of each process, `none` of one that runs or cannot be
polled. -/
abbrev Codes := List (Option Int)

/-- The processes that have shown no exit code. -/
def pending (handles : List Handle) (codes : Codes) : List Handle :=
  ((handles.zip codes).filter (·.2.isNone)).map (·.1)

section Pending

variable {handles : List Handle} {codes : Codes}

theorem pending_sublist : (pending handles codes).Sublist handles := by
  induction handles generalizing codes with
  | nil => exact .refl _
  | cons handle rest ih =>
    cases codes with
    | nil => exact List.nil_sublist _
    | cons code codes =>
      cases code with
      | none => exact ih.cons_cons handle
      | some code => exact ih.cons handle

/-- Nobody is pending exactly when everybody has shown an exit code. -/
theorem pending_eq_nil_iff (complete : codes.length = handles.length) :
    pending handles codes = [] ↔ ∀ code ∈ codes, code.isSome := by
  induction handles generalizing codes with
  | nil =>
    rw [List.length_eq_zero_iff.mp complete]
    exact ⟨fun _ => List.forall_mem_nil _, fun _ => rfl⟩
  | cons handle rest ih =>
    cases codes with
    | nil => cases complete
    | cons code codes =>
      rw [List.forall_mem_cons, ← ih (Nat.succ.inj complete)]
      cases code with
      | none => simp [pending]
      | some code => simp [pending]

end Pending

section Sweeps

variable {means? : Option Means} {child : Nat} {treatment : List Exchange}

/-- Signals tell nothing of a process. -/
theorem Treats.told (treats : Treats means? child treatment) : treatment.filterMap told? = [] := by
  cases means? with
  | none => rw [show treatment = [] from treats]; rfl
  | some means =>
    obtain ⟨reply, rfl⟩ := treats
    cases means <;> rfl

theorem Treats.signals (treats : Treats means? child treatment) :
    terminations treatment = (if means? = some .ask then [child] else []) ∧
      kills treatment = if means? = some .force then [child] else [] := by
  cases means? with
  | none => rw [show treatment = [] from treats]; exact ⟨rfl, rfl⟩
  | some means =>
    obtain ⟨reply, rfl⟩ := treats
    cases means <;> exact ⟨rfl, rfl⟩

/-- What comes of a sweep: it is told a code of every process, signals those that are pending, and
does not pause. -/
structure Swept (means? : Option Means) (handles : List Handle) (exchanges : List Exchange)
    (codes : Codes) : Prop where
  complete : codes.length = handles.length
  told : exchanges.filterMap told? = (handles.map Handle.child).zip codes
  asks : terminations exchanges =
    if means? = some .ask then (pending handles codes).map Handle.child else []
  forces : kills exchanges =
    if means? = some .force then (pending handles codes).map Handle.child else []
  paused : pauses exchanges = []

variable {handles running : List Handle} {exchanges : List Exchange}

/-- The process control of a sweep, seen from what it is told. -/
theorem Sweep.codes (sweep : Sweep means? handles exchanges running) :
    ∃ codes : Codes, codes.length = handles.length ∧ running = pending handles codes ∧
      exchanges.filterMap told? = (handles.map Handle.child).zip codes := by
  induction sweep with
  | nil => exact ⟨[], rfl, rfl, rfl⟩
  | ended handle code _ ih =>
    obtain ⟨codes, complete, rfl, told⟩ := ih
    exact ⟨some code :: codes, congrArg (· + 1) complete, rfl, congrArg (_ :: ·) told⟩
  | @running handle seen treatment rest running others unfinished treats _ ih =>
    obtain ⟨codes, complete, rfl, told⟩ := ih
    refine ⟨none :: codes, congrArg (· + 1) complete, rfl, ?_⟩
    show (handle.child, exitCode? seen) :: (treatment ++ others).filterMap told? = _
    rw [unfinished, List.filterMap_append, treats.told, told]
    rfl

/-- A sweep signals those that it has found running, by its means, and nobody else. -/
theorem Sweep.signals (sweep : Sweep means? handles exchanges running) :
    terminations exchanges = (if means? = some .ask then running.map Handle.child else []) ∧
      kills exchanges = if means? = some .force then running.map Handle.child else [] := by
  induction sweep with
  | nil => simp [terminations, kills]
  | ended handle code _ ih => exact ih
  | @running handle seen treatment rest running others unfinished treats _ ih =>
    obtain ⟨asked, forced⟩ := treats.signals
    constructor
    · show terminations (treatment ++ others) = _
      rw [terminations_append, asked, ih.1]
      split <;> rfl
    · show kills (treatment ++ others) = _
      rw [kills_append, forced, ih.2]
      split <;> rfl

theorem Sweep.swept (sweep : Sweep means? handles (calls exchanges) running)
    (prompt : Prompt exchanges) :
    ∃ codes, Swept means? handles exchanges codes ∧ running = pending handles codes := by
  obtain ⟨codes, complete, rfl, told⟩ := sweep.codes
  obtain ⟨asked, forced⟩ := sweep.signals
  rw [told_calls] at told
  rw [terminations_calls] at asked
  rw [kills_calls] at forced
  exact ⟨codes, ⟨complete, told, asked, forced, prompt.pauses⟩, rfl⟩

/-- To stop all processes is a sweep that signals; it tells whether somebody was pending. -/
theorem stopAll_swept {means : Means} {found : Bool}
    (ran : Runs (stopAll means handles) exchanges found) :
    ∃ codes, Swept (some means) handles exchanges codes ∧
      found = !(pending handles codes).isEmpty := by
  obtain ⟨running, sweep, rfl⟩ := runs_stopAll ran
  obtain ⟨codes, swept, rfl⟩ := sweep.swept fun exchange member =>
    (ran.asked (stopAll_isSweep handles means) exchange member).prompt
  exact ⟨codes, swept, rfl⟩

/-- To look for survivors is a sweep that signals nobody; it gives the ids of those pending. -/
theorem survivors_swept {pids : List Nat} (ran : Runs (survivors handles) exchanges pids) :
    ∃ codes, Swept none handles exchanges codes ∧
      pids = (pending handles codes).map Handle.pid := by
  obtain ⟨running, sweep, rfl⟩ := runs_survivors ran
  obtain ⟨codes, swept, rfl⟩ := sweep.swept fun exchange member =>
    (ran.asked (survivors_isSweep handles) exchange member).prompt
  exact ⟨codes, swept, rfl⟩

end Sweeps

section Drains

/-- Sweeps follow each other as long as somebody is pending. It goes well when the last one has
found nobody; when that does not come to pass in as many sweeps as are allowed, the processes that
were pending in the last of them are the error. -/
structure Drains (handles : List Handle) (allowed : Nat) (sweeps : List Codes)
    (result : Except LaunchError Unit) : Prop where
  complete : ∀ codes ∈ sweeps, codes.length = handles.length
  persists : ∀ codes ∈ sweeps.dropLast, pending handles codes ≠ []
  ends : ∃ last, sweeps.getLast? = some last ∧
    (pending handles last = [] ∧ result = .ok () ∨
      pending handles last ≠ [] ∧ sweeps.length = allowed ∧
        result = .error (.terminationTimeout ((pending handles last).map Handle.pid)))

variable {handles : List Handle} {allowed : Nat} {codes : Codes} {sweeps : List Codes}
  {result : Except LaunchError Unit}

/-- A sweep that finds nobody pending is the last. -/
theorem Drains.done (complete : codes.length = handles.length) (none : pending handles codes = []) :
    Drains handles allowed [codes] (.ok ()) where
  complete := List.forall_mem_singleton.mpr complete
  persists := fun _ member => by cases member
  ends := ⟨codes, rfl, .inl ⟨none, rfl⟩⟩

/-- So is the last that is allowed. -/
theorem Drains.last (complete : codes.length = handles.length) (some : pending handles codes ≠ []) :
    Drains handles 1 [codes]
      (.error (.terminationTimeout ((pending handles codes).map Handle.pid))) where
  complete := List.forall_mem_singleton.mpr complete
  persists := fun _ member => by cases member
  ends := ⟨codes, rfl, .inr ⟨some, rfl, rfl⟩⟩

theorem Drains.ne_nil (drains : Drains handles allowed sweeps result) : sweeps ≠ [] := by
  obtain ⟨last, same, -⟩ := drains.ends
  rintro rfl
  cases same

/-- One that finds somebody pending comes before the others. -/
theorem Drains.cons (complete : codes.length = handles.length) (some : pending handles codes ≠ [])
    (drains : Drains handles allowed sweeps result) :
    Drains handles (allowed + 1) (codes :: sweeps) result where
  complete := List.forall_mem_cons.mpr ⟨complete, drains.complete⟩
  persists := by
    rw [List.dropLast_cons_of_ne_nil drains.ne_nil]
    exact List.forall_mem_cons.mpr ⟨some, drains.persists⟩
  ends := by
    obtain ⟨last, same, ends⟩ := drains.ends
    refine ⟨last, ?_, ends.imp_right fun ⟨left, all, failed⟩ => ?_⟩
    · rw [List.getLast?_cons, same, Option.getD_some]
    · exact ⟨left, congrArg (· + 1) all, failed⟩

/-- It goes well exactly when in one of the sweeps everybody has shown an exit code. -/
theorem Drains.eq_ok_iff (drains : Drains handles allowed sweeps result) :
    result = .ok () ↔ ∃ codes ∈ sweeps, ∀ code ∈ codes, code.isSome := by
  obtain ⟨last, same, ends⟩ := drains.ends
  have member := List.mem_of_getLast? same
  constructor
  · rintro rfl
    obtain ⟨none, -⟩ | ⟨-, -, absurd⟩ := ends
    · exact ⟨last, member, (pending_eq_nil_iff (drains.complete last member)).mp none⟩
    · cases absurd
  · rintro ⟨codes, inside, all⟩
    have none := (pending_eq_nil_iff (drains.complete codes inside)).mpr all
    -- nobody was pending in this sweep, so that no other has followed
    obtain ⟨-, succeeded⟩ | ⟨some, -⟩ := ends
    · exact succeeded
    · rw [← List.dropLast_append_getLast? last same, List.mem_append, List.mem_singleton] at inside
      obtain earlier | rfl := inside
      · exact (drains.persists codes earlier none).elim
      · exact (some none).elim

end Drains

section Rounds

/-- The sweeps of a termination, in order. -/
def sweeps (asked : Codes) (rounds : List Codes) (checked : Option Codes) : List Codes :=
  asked :: (rounds ++ checked.toList)

/-- How many of some rounds have found somebody pending. -/
def busy (handles : List Handle) (rounds : List Codes) : Nat :=
  rounds.countP fun codes => !(pending handles codes).isEmpty

theorem busy_cons {handles : List Handle} {codes : Codes} {rounds : List Codes}
    (some : pending handles codes ≠ []) :
    busy handles (codes :: rounds) = busy handles rounds + 1 :=
  List.countP_cons_of_pos (by simpa using some)

/-- How kill rounds proceed. -/
structure Forces (interval retries : Nat) (handles : List Handle) (exchanges : List Exchange)
    (result : Except LaunchError Unit) (rounds : List Codes) (checked : Option Codes) : Prop where
  drains : Drains handles (retries + 1) (rounds ++ checked.toList) result
  bounded : rounds.length ≤ retries
  checks : checked.isSome → rounds.length = retries
  told : exchanges.filterMap told? =
    (rounds ++ checked.toList).flatMap (handles.map Handle.child).zip
  asks : terminations exchanges = []
  forces : kills exchanges = rounds.flatMap fun codes => (pending handles codes).map Handle.child
  paused : pauses exchanges = List.replicate (busy handles rounds) interval

variable {interval retries : Nat} {handles : List Handle} {exchanges : List Exchange}
  {result : Except LaunchError Unit}

theorem runs_reportStopped (ran : Runs reportStopped exchanges result) :
    Idle exchanges ∧ result = .ok () := by
  obtain ⟨told, last, _, rfl, reported, done⟩ := (runs_bind _ _ _ _).mp ran
  obtain ⟨rfl, rfl⟩ := runs_pure.mp done
  exact ⟨Idle.append (reported.asked (report_asks _ _ trivial)) idle_nil, rfl⟩

section Steps

variable {sweeping rest : List Exchange} {codes : Codes} {rounds : List Codes}
  {checked : Option Codes}

/-- When there is no round left, those that are left are looked at. -/
theorem Forces.look (swept : Swept none handles sweeping codes) (idle : Idle rest)
    (drains : Drains handles 1 [codes] result) :
    Forces interval 0 handles (sweeping ++ rest) result [] (some codes) := by
  obtain ⟨told, asks, forces, pauses⟩ := idle.unseen
  refine ⟨drains, Nat.le_refl 0, fun _ => rfl, ?_, ?_, ?_, ?_⟩
  · rw [List.filterMap_append, swept.told, told]
    rfl
  · rw [terminations_append, swept.asks, asks]
    rfl
  · rw [kills_append, swept.forces, forces]
    rfl
  · rw [pauses_append, swept.paused, pauses]
    rfl

/-- A round that finds nobody pending is the last. -/
theorem Forces.done (swept : Swept (some .force) handles sweeping codes) (idle : Idle rest)
    (none : pending handles codes = []) :
    Forces interval (retries + 1) handles (sweeping ++ rest) (.ok ()) [codes] Option.none := by
  obtain ⟨told, asks, forces, pauses⟩ := idle.unseen
  refine ⟨.done swept.complete none, Nat.le_add_left 1 retries, (fun absurd => by cases absurd),
    ?_, ?_, ?_, ?_⟩
  · rw [List.filterMap_append, swept.told, told]
    rfl
  · rw [terminations_append, swept.asks, asks]
    rfl
  · rw [kills_append, swept.forces, forces]
    rfl
  · rw [pauses_append, swept.paused, pauses, busy, List.countP_singleton, none]
    rfl

/-- One that finds somebody pending is followed by a pause and the other rounds. -/
theorem Forces.again (swept : Swept (some .force) handles sweeping codes)
    (some : pending handles codes ≠ [])
    (forces : Forces interval retries handles rest result rounds checked) :
    Forces interval (retries + 1) handles (sweeping ++ ⟨.sleep interval, ()⟩ :: rest) result
      (codes :: rounds) checked := by
  refine ⟨forces.drains.cons swept.complete some, Nat.succ_le_succ forces.bounded,
    fun check => congrArg (· + 1) (forces.checks check), ?_, ?_, ?_, ?_⟩
  · rw [List.filterMap_append, swept.told]
    exact congrArg _ forces.told
  · rw [terminations_append, swept.asks]
    exact forces.asks
  · rw [kills_append, swept.forces]
    exact congrArg _ forces.forces
  · rw [pauses_append, swept.paused, busy_cons some, List.replicate_succ]
    exact congrArg (interval :: ·) forces.paused

end Steps

/-- **Kill rounds** follow each other as long as somebody is pending, with a pause after each of
those. When they are used up there is one more look. -/
theorem killRounds_forces (ran : Runs (killRounds interval handles retries) exchanges result) :
    ∃ rounds checked, Forces interval retries handles exchanges result rounds checked := by
  induction retries generalizing exchanges with
  | zero =>
    obtain ⟨looking, rest, pids, rfl, looked, after⟩ := (runs_bind _ _ _ _).mp ran
    obtain ⟨codes, swept, rfl⟩ := survivors_swept looked
    refine ⟨[], some codes, ?_⟩
    cases left : pending handles codes with
    | nil =>
      rw [left] at after
      obtain ⟨idle, rfl⟩ := runs_reportStopped after
      exact .look swept idle (.done swept.complete left)
    | cons first others =>
      have some : pending handles codes ≠ [] := left ▸ List.cons_ne_nil _ _
      rw [left] at after
      obtain ⟨told, nothing, _, rfl, reported, done⟩ := (runs_bind _ _ _ _).mp after
      obtain ⟨rfl, rfl⟩ := runs_pure.mp done
      rw [List.append_nil, ← left]
      exact .look swept (reported.asked (report_asks _ _ trivial)) (.last swept.complete some)
  | succ retries ih =>
    rw [killRounds] at ran
    obtain ⟨sweeping, rest, found, rfl, stopped, after⟩ := (runs_bind _ _ _ _).mp ran
    obtain ⟨codes, swept, rfl⟩ := stopAll_swept stopped
    cases left : pending handles codes with
    | nil =>
      rw [left] at after
      obtain ⟨idle, rfl⟩ := runs_reportStopped after
      exact ⟨[codes], none, .done swept idle left⟩
    | cons first others =>
      rw [left] at after
      obtain ⟨slept, later, rfl, forcing⟩ := runs_ask.mp after
      obtain ⟨rounds, checked, forces⟩ := ih forcing
      exact ⟨codes :: rounds, checked, .again swept (left ▸ List.cons_ne_nil _ _) forces⟩

end Rounds

section Course

/-- How a termination proceeds. The codes `asked` are those of the first sweep, which asks to
stop; `rounds` are those of the kill rounds and `checked` those of the final check, if it comes to
that. -/
structure Proceeds (policy : TerminationPolicy) (handles : List Handle) (exchanges : List Exchange)
    (result : Except LaunchError Unit) (asked : Codes) (rounds : List Codes)
    (checked : Option Codes) : Prop where
  /-- The sweeps poll every process once and in order, and nothing else is polled. -/
  told : exchanges.filterMap told? =
    (sweeps asked rounds checked).flatMap (handles.map Handle.child).zip
  complete : ∀ codes ∈ sweeps asked rounds checked, codes.length = handles.length
  /-- Another sweep follows only one that has found somebody pending. -/
  persists : ∀ codes ∈ (sweeps asked rounds checked).dropLast, pending handles codes ≠ []
  bounded : rounds.length ≤ policy.retries
  /-- The final check follows the last round that is allowed. -/
  checks : checked.isSome → rounds.length = policy.retries
  /-- It goes well exactly when in one of the sweeps every process has answered an exit code. -/
  succeeds : result = .ok () ↔
    ∃ codes ∈ sweeps asked rounds checked, ∀ code ∈ codes, code.isSome
  /-- Otherwise the error has the ids of the processes that were pending in the final check. -/
  fails : result ≠ .ok () → ∃ codes, checked = some codes ∧
    result = .error (.terminationTimeout ((pending handles codes).map Handle.pid))
  /-- The first sweep asks those to stop that it has found pending. -/
  asks : terminations exchanges = (pending handles asked).map Handle.child
  /-- Each kill round stops those by force that it has found pending. -/
  forces : kills exchanges = rounds.flatMap fun codes => (pending handles codes).map Handle.child
  /-- A process is signalled only directly after a poll of it that has shown no exit code. -/
  guarded : Guarded (calls exchanges)
  /-- The first sweep is followed by the grace period, and each round that has found somebody
  pending by the interval; there is no pause when the first sweep has found nobody. -/
  paused : pauses exchanges =
    if (pending handles asked).isEmpty then []
    else policy.grace :: List.replicate (busy handles rounds) policy.interval

variable {policy : TerminationPolicy} {handles left : List Handle} {exchanges : List Exchange}
  {result : Except LaunchError Unit} {asked : Codes} {rounds : List Codes} {checked : Option Codes}

/-- When sweeps of a termination do not go well, all of them were made. -/
theorem Drains.timeout {retries : Nat}
    (drains : Drains handles (retries + 2) (sweeps asked rounds checked) result)
    (bounded : rounds.length ≤ retries) (failed : result ≠ .ok ()) :
    ∃ codes, checked = some codes ∧
      result = .error (.terminationTimeout ((pending handles codes).map Handle.pid)) := by
  obtain ⟨last, same, ⟨-, succeeded⟩ | ⟨-, all, timeout⟩⟩ := drains.ends
  · exact (failed succeeded).elim
  · cases checked with
    | none =>
      simp only [sweeps, Option.toList_none, List.append_nil, List.length_cons] at all
      omega
    | some codes =>
      have final : (sweeps asked rounds (some codes)).getLast? = some codes := by
        rw [sweeps, Option.toList_some, ← List.cons_append, List.getLast?_concat]
      obtain rfl := Option.some.inj (same.symm.trans final)
      exact ⟨last, rfl, timeout⟩

/-- A termination proceeds as its sweeps follow each other. -/
theorem runs_proceeds (ran : Runs (run policy handles) exchanges (result, left)) :
    left = handles.map Handle.closeLog ∧
      ∃ asked rounds checked, Proceeds policy handles exchanges result asked rounds checked := by
  have guarded := runs_guarded ran
  obtain ⟨asking, rest, found, rfl, stopped, after⟩ := (runs_bind _ _ _ _).mp ran
  obtain ⟨asked, swept, rfl⟩ := stopAll_swept stopped
  by_cases none : pending handles asked = []
  · rw [none] at after
    obtain ⟨rfl, same⟩ := runs_pure.mp after
    cases same
    have drains : Drains handles (policy.retries + 2) (sweeps asked [] Option.none) (.ok ()) :=
      .done swept.complete none
    rw [List.append_nil] at guarded ⊢
    refine ⟨rfl, asked, [], Option.none, ?_, drains.complete, drains.persists, Nat.zero_le _,
      (fun absurd => by cases absurd), drains.eq_ok_iff, drains.timeout (Nat.zero_le _),
      swept.asks, swept.forces, guarded, ?_⟩
    · rw [swept.told]
      exact (List.append_nil _).symm
    · rw [swept.paused, none]
      rfl
  · have found : (!(pending handles asked).isEmpty) = true := by simpa using none
    rw [found] at after
    obtain ⟨slept, killed, rfl, resumed⟩ := runs_ask.mp after
    obtain ⟨forcing, last, result, rfl, killing, done⟩ := (runs_bind _ _ _ _).mp resumed
    obtain ⟨rfl, same⟩ := runs_pure.mp done
    cases same
    obtain ⟨rounds, checked, forces⟩ := killRounds_forces killing
    have drains : Drains handles (policy.retries + 2) (sweeps asked rounds checked) result :=
      forces.drains.cons swept.complete none
    rw [List.append_nil] at guarded ⊢
    refine ⟨rfl, asked, rounds, checked, ?_, drains.complete, drains.persists, forces.bounded,
      forces.checks, drains.eq_ok_iff, drains.timeout forces.bounded, ?_, ?_, guarded, ?_⟩
    · rw [List.filterMap_append, swept.told]
      exact congrArg _ forces.told
    · rw [terminations_append, swept.asks, if_pos rfl]
      exact (congrArg _ forces.asks).trans (List.append_nil _)
    · rw [kills_append, swept.forces]
      exact forces.forces
    · rw [pauses_append, swept.paused, if_neg (by simpa using none)]
      exact congrArg (policy.grace :: ·) forces.paused

/-- No process is asked to stop twice, or stopped by force more often than there are rounds. -/
theorem Proceeds.count_le (proceeds : Proceeds policy handles exchanges result asked rounds checked)
    (distinct : (handles.map Handle.child).Nodup) (child : Nat) :
    (terminations exchanges).count child ≤ 1 ∧ (kills exchanges).count child ≤ policy.retries := by
  have once (codes : Codes) : ((pending handles codes).map Handle.child).count child ≤ 1 :=
    List.nodup_iff_count_le_one.mp (distinct.sublist (pending_sublist.map _)) child
  refine ⟨proceeds.asks ▸ once asked, ?_⟩
  rw [proceeds.forces, List.count_flatMap]
  refine Nat.le_trans (List.sum_le_card_nsmul _ 1 ?_) ?_
  · intro count member
    obtain ⟨codes, -, rfl⟩ := List.mem_map.mp member
    exact once codes
  · rw [List.length_map, smul_eq_mul, Nat.mul_one]
    exact proceeds.bounded

/-- What a sweep is told of a process is the exit code in the answer to a poll of it. -/
theorem Proceeds.polled (proceeds : Proceeds policy handles exchanges result asked rounds checked)
    {codes : Codes} (inside : codes ∈ sweeps asked rounds checked) {place : Nat} {handle : Handle}
    {code : Option Int} (here : handles[place]? = some handle) (there : codes[place]? = some code) :
    ∃ answer, ⟨.poll handle.child, answer⟩ ∈ exchanges ∧ exitCode? answer = code := by
  have paired : ((handles.map Handle.child).zip codes)[place]? = some (handle.child, code) :=
    List.getElem?_zip_eq_some.mpr ⟨by rw [List.getElem?_map, here]; rfl, there⟩
  refine exists_poll_of_told ?_
  rw [proceeds.told]
  exact List.mem_flatMap.mpr ⟨codes, inside, List.mem_of_getElem? paired⟩

/-- When it goes well, every process has answered a poll with an exit code. -/
theorem Proceeds.ended
    (proceeds : Proceeds policy handles exchanges (.ok ()) asked rounds checked) :
    ∀ handle ∈ handles, ∃ code, ⟨.poll handle.child, .ok (some code)⟩ ∈ exchanges := by
  intro handle member
  obtain ⟨codes, inside, all⟩ := proceeds.succeeds.mp rfl
  obtain ⟨place, here⟩ := List.mem_iff_getElem?.mp member
  obtain ⟨bound, -⟩ := List.getElem?_eq_some_iff.mp here
  rw [← proceeds.complete codes inside] at bound
  obtain ⟨code, same⟩ := Option.isSome_iff_exists.mp (all _ (List.getElem_mem bound))
  obtain ⟨answer, polled, shown⟩ :=
    proceeds.polled inside here (same ▸ List.getElem?_eq_getElem bound)
  exact ⟨code, eq_ok_of_exitCode? shown ▸ polled⟩

/-- When the first sweep is told an exit code of every process, it is the only one, and nothing is
done. -/
theorem Proceeds.nothing (proceeds : Proceeds policy handles exchanges result asked rounds checked)
    (all : ∀ code ∈ asked, code.isSome) :
    result = .ok () ∧ terminations exchanges = [] ∧ kills exchanges = [] ∧
      pauses exchanges = [] := by
  have none : pending handles asked = [] :=
    (pending_eq_nil_iff (proceeds.complete asked List.mem_cons_self)).mpr all
  have alone : rounds ++ checked.toList = [] := by
    by_contra others
    refine proceeds.persists asked ?_ none
    rw [sweeps, List.dropLast_cons_of_ne_nil others]
    exact List.mem_cons_self
  obtain ⟨rfl, -⟩ := List.append_eq_nil_iff.mp alone
  refine ⟨proceeds.succeeds.mpr ⟨asked, List.mem_cons_self, all⟩, ?_, proceeds.forces, ?_⟩
  · rw [proceeds.asks, none]
    rfl
  · rw [proceeds.paused, none]
    rfl

/-- Where exit codes are kept, processes that have answered one answer it to every later
termination. -/
theorem Proceeds.asked_of_kept {earlier between : List Exchange}
    (proceeds : Proceeds policy handles exchanges result asked rounds checked)
    (ended : ∀ handle ∈ handles, ∃ code, ⟨.poll handle.child, .ok (some code)⟩ ∈ earlier)
    (kept : KeepsExitCodes (earlier ++ (between ++ exchanges))) : ∀ code ∈ asked, code.isSome := by
  intro code member
  obtain ⟨place, there⟩ := List.mem_iff_getElem?.mp member
  obtain ⟨bound, -⟩ := List.getElem?_eq_some_iff.mp there
  rw [proceeds.complete asked List.mem_cons_self] at bound
  obtain ⟨answer, polled, rfl⟩ :=
    proceeds.polled List.mem_cons_self (List.getElem?_eq_getElem bound) there
  obtain ⟨exit, before⟩ := ended _ (List.getElem_mem bound)
  obtain ⟨-, -, apart⟩ := List.pairwise_append.mp kept
  rw [apart _ before _ (List.mem_append_right _ polled) _ exit answer rfl rfl]
  rfl

/-- No log is open once all of them are closed. -/
theorem logOpen_closeLog (handles : List Handle) :
    ∀ handle ∈ handles.map Handle.closeLog, handle.logOpen = false := by
  rw [List.forall_mem_map]
  exact fun handle _ => rfl

/-- **The course of a termination.** It closes all logs. Its sweeps are those of `Proceeds`; so no
process of its own is asked to stop more than once, or stopped by force more often than the policy
allows. When it has gone well and exit codes are kept, a second termination, whenever it comes,
finds nothing to do: it signals nobody and does not pause. -/
theorem run_proceeds (ran : Runs (run policy handles) exchanges (result, left)) :
    left = handles.map Handle.closeLog ∧ (∀ handle ∈ left, handle.logOpen = false) ∧
    (∃ asked rounds checked, Proceeds policy handles exchanges result asked rounds checked) ∧
    ((handles.map Handle.child).Nodup → ∀ child,
      (terminations exchanges).count child ≤ 1 ∧
        (kills exchanges).count child ≤ policy.retries) ∧
    (result = .ok () → ∀ (again : TerminationPolicy) (between after : List Exchange)
        (outcome : Except LaunchError Unit × List Handle), Runs (run again left) after outcome →
      KeepsExitCodes (exchanges ++ (between ++ after)) →
      outcome.1 = .ok () ∧ terminations after = [] ∧ kills after = [] ∧ pauses after = []) := by
  obtain ⟨rfl, asked, rounds, checked, proceeds⟩ := runs_proceeds ran
  refine ⟨rfl, logOpen_closeLog handles, ⟨asked, rounds, checked, proceeds⟩, proceeds.count_le, ?_⟩
  rintro rfl again between after ⟨outcome, kept⟩ repeated keeps
  obtain ⟨-, _, _, _, second⟩ := runs_proceeds repeated
  refine second.nothing (second.asked_of_kept ?_ keeps)
  rw [List.forall_mem_map]
  exact proceeds.ended

/-- Two kill rounds at most. -/
def hastyPolicy : TerminationPolicy := ⟨3000, 2, 1000⟩

/-- Two trainers, each with a log that is still open. -/
def trainerPair : List Handle :=
  [{ Stage.trainer 0 with logPath := some "log/workerlog.0", logOpen := true },
    { Stage.trainer 1 with logPath := some "log/workerlog.1", logOpen := true }]

/-- A machine on which the first of them has ended and the second one does not stop when it is asked
to. -/
def stubbornStage : Stage :=
  .opening [.plain (some 0) 0, { Behavior.plain none 0 with stopsOnTerminate := false }]

/-- What is said when they are terminated, and when they are terminated again. -/
def terminatedTwice : List Exchange × List Exchange :=
  let first := run hastyPolicy trainerPair
  let (outcome, stage) := first.run Stage.host stubbornStage
  (first.transcript Stage.host stubbornStage,
    (run hastyPolicy outcome.2).transcript Stage.host stage)

theorem run_proceeds_stubbornTrainer :
    trainerPair.map Handle.logOpen = [true, true] ∧
    (∃ left, ((run hastyPolicy trainerPair).run Stage.host stubbornStage).1 = (.ok (), left) ∧
      left.map Handle.child = [0, 1] ∧ ∀ handle ∈ left, handle.logOpen = false) ∧
    (∃ asked rounds checked, Proceeds hastyPolicy trainerPair terminatedTwice.1 (.ok ()) asked
      rounds checked) ∧
    (terminations terminatedTwice.1).count 1 ≤ 1 ∧ (kills terminatedTwice.1).count 1 ≤ 2 ∧
    pauses terminatedTwice.1 = [3000, 1000] ∧ terminations terminatedTwice.2 = [] ∧
    kills terminatedTwice.2 = [] ∧ pauses terminatedTwice.2 = [] := by
  have ran := runs_transcript Stage.host (run hastyPolicy trainerPair) stubbornStage
  obtain ⟨left, ended⟩ :
      ∃ left, ((run hastyPolicy trainerPair).run Stage.host stubbornStage).1 = (.ok (), left) :=
    ⟨_, rfl⟩
  rw [ended] at ran
  obtain ⟨same, closed, proceeds, counts, harmless⟩ := run_proceeds ran
  have bounds := counts (by decide) 1
  have kept : KeepsExitCodes (terminatedTwice.1 ++ ([] ++ terminatedTwice.2)) :=
    keepsExitCodes_of_told (by decide +kernel)
  have later : terminatedTwice.2 = (run hastyPolicy left).transcript Stage.host
      ((run hastyPolicy trainerPair).run Stage.host stubbornStage).2 :=
    congrArg (fun (outcome : Except LaunchError Unit × List Handle) =>
      (run hastyPolicy outcome.2).transcript Stage.host
        ((run hastyPolicy trainerPair).run Stage.host stubbornStage).2) ended
  have again := runs_transcript Stage.host (run hastyPolicy left)
    ((run hastyPolicy trainerPair).run Stage.host stubbornStage).2
  rw [← later] at again
  obtain ⟨-, nothing⟩ := harmless rfl hastyPolicy [] _ _ again kept
  exact ⟨rfl, ⟨left, ended, same ▸ rfl, closed⟩, proceeds, bounds.1, bounds.2, rfl, nothing⟩

end Course

end Termination

end TrainingLauncher
