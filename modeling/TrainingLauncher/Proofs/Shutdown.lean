/-
The end of a job with parameter servers. When its workers have ended well, the other processes are
stopped. Until then nobody is signalled; afterwards every process that does not turn out to have
ended by itself is asked to stop, once, and the job waits until all of them have ended.

* `terminations`: the children that were asked to stop.
* `Termination.Sweep.counts`: a sweep that asks to stop asks each of those that still run, once.
* `Termination.run_ended`: a termination that goes well leaves nobody behind.
* `Watchdog.runUntil_finished`: a supervision that ends well has signalled nobody.
* `Job.runServers_completes`: the end of the job.
-/

import TrainingLauncher.Proofs.Deployment

namespace TrainingLauncher

open Program Rehearsal

section Terminations

/-- The child that an exchange asks to stop. -/
def terminated? : Exchange → Option Nat
  | ⟨.terminate child, _⟩ => some child
  | _ => none

/-- The children that were asked to stop, as often as they were. -/
def terminations (exchanges : List Exchange) : List Nat := exchanges.filterMap terminated?

variable {first second exchanges : List Exchange}

@[simp] theorem terminations_append :
    terminations (first ++ second) = terminations first ++ terminations second :=
  List.filterMap_append

/-- Only process control asks to stop. -/
theorem terminations_calls (exchanges : List Exchange) :
    terminations (calls exchanges) = terminations exchanges := by
  refine filterMap_calls ?_ exchanges
  rintro ⟨request, answer⟩ uncontrolled
  cases request <;> first | rfl | cases uncontrolled

/-- Only process control tells of a child. -/
theorem told_calls (exchanges : List Exchange) :
    (calls exchanges).filterMap told? = exchanges.filterMap told? := by
  refine filterMap_calls ?_ exchanges
  rintro ⟨request, answer⟩ uncontrolled
  cases request <;> first | rfl | cases uncontrolled

/-- The request does not ask a child to stop. -/
def Request.AsksNobody : Request → Prop
  | terminate _ => False
  | _ => True

theorem terminations_eq_nil (nobody : ∀ exchange ∈ exchanges, exchange.request.AsksNobody) :
    terminations exchanges = [] := by
  refine List.filterMap_eq_nil_iff.mpr ?_
  rintro ⟨request, answer⟩ member
  have fine := nobody _ member
  cases request <;> first | exact fine.elim | rfl

theorem Request.IsIdle.asksNobody {request : Request} (idle : request.IsIdle) :
    request.AsksNobody := by
  cases request <;> first | exact idle.elim | trivial

theorem Request.IsSweeping.asksNobody {request : Request}
    (forcing : request.IsSweeping .force) : request.AsksNobody := by
  cases request <;> trivial

/-- Whoever signals nobody asks nobody to stop. -/
theorem Unsignalled.terminations (quiet : Unsignalled exchanges) : terminations exchanges = [] := by
  refine terminations_eq_nil ?_
  rintro ⟨request, answer⟩ member
  cases request with
  | terminate child => exact (quiet _ member child (.inl rfl)).elim
  | _ => trivial

/-- What is at a place of a list is, up to a function, at that place of any list with the same
values. -/
theorem exists_getElem?_of_map_eq {f : α → β} {one other : List α} (same : one.map f = other.map f)
    {place : Nat} {value : α} (here : other[place]? = some value) :
    ∃ found, one[place]? = some found ∧ f found = f value := by
  have there := congrArg (·[place]?) same
  simp only [List.getElem?_map, here, Option.map_some] at there
  exact Option.map_eq_some_iff.mp there

end Terminations

namespace Termination

variable {handles running : List Handle} {exchanges : List Exchange}

section Sweeps

/-- Whoever a sweep asks to stop is one of its processes. -/
theorem Sweep.mem_of_mem_terminations {means? : Option Means}
    (sweep : Sweep means? handles exchanges running) {child : Nat}
    (asked : child ∈ terminations exchanges) : child ∈ handles.map Handle.child := by
  induction sweep with
  | nil => cases asked
  | ended other code _ ih => exact List.mem_cons_of_mem _ (ih asked)
  | @running other seen treatment rest running others _ treats _ ih =>
    have asked : child ∈ terminations treatment ++ terminations others := by
      rw [← terminations_append]
      exact asked
    rcases List.mem_append.mp asked with asked | asked
    · have same : child = other.child := by
        cases means? with
        | none =>
          obtain rfl := treats
          cases asked
        | some means =>
          obtain ⟨reply, rfl⟩ := treats
          cases means with
          | ask => exact List.mem_singleton.mp asked
          | force => cases asked
      exact same ▸ List.mem_cons_self
    · exact List.mem_cons_of_mem _ (ih asked)

/-- **A sweep that asks to stop** polls every process once, and asks those to stop whose answer has
no exit code, once. -/
theorem Sweep.counts (sweep : Sweep (some .ask) handles exchanges running)
    (distinct : (handles.map Handle.child).Nodup) :
    ∃ codes : List (Option Int), codes.length = handles.length ∧
      exchanges.filterMap told? = (handles.map Handle.child).zip codes ∧
      ∀ (place : Nat) (handle : Handle) (code : Option Int),
        handles[place]? = some handle → codes[place]? = some code →
          (terminations exchanges).count handle.child = if code.isNone then 1 else 0 := by
  induction sweep with
  | nil => exact ⟨[], rfl, rfl, fun _ _ _ none => by cases none⟩
  | @ended other exit rest running others sweep ih =>
    obtain ⟨absent, distinct⟩ := List.nodup_cons.mp distinct
    obtain ⟨codes, complete, told, counts⟩ := ih distinct
    refine ⟨some exit :: codes, congrArg (· + 1) complete, congrArg (_ :: ·) told, ?_⟩
    intro place handle code here found
    show (terminations others).count handle.child = _
    cases place with
    | zero =>
      cases here
      cases found
      exact List.count_eq_zero_of_not_mem fun asked => absent (sweep.mem_of_mem_terminations asked)
    | succ place => exact counts place handle code here found
  | @running other seen treatment rest running others unfinished treats sweep ih =>
    obtain ⟨absent, distinct⟩ := List.nodup_cons.mp distinct
    obtain ⟨codes, complete, told, counts⟩ := ih distinct
    obtain ⟨reply, rfl⟩ := treats
    refine ⟨none :: codes, congrArg (· + 1) complete, ?_, ?_⟩
    · show (other.child, exitCode? seen) :: others.filterMap told? = _
      rw [unfinished, told]
      rfl
    · intro place handle code here found
      show (other.child :: terminations others).count handle.child = _
      cases place with
      | zero =>
        cases here
        cases found
        rw [List.count_cons_self, List.count_eq_zero_of_not_mem
          fun asked => absent (sweep.mem_of_mem_terminations asked)]
        rfl
      | succ place =>
        have differs : other.child ≠ handle.child := fun same =>
          absent (same ▸ List.mem_map_of_mem (List.mem_of_getElem? here))
        rw [List.count_cons_of_ne differs]
        exact counts place handle code here found

end Sweeps

section Ends

/-- A sweep that finds nobody running finds that everybody has ended. -/
theorem Sweep.ended_of_nil {means? : Option Means}
    (sweep : Sweep means? handles (calls exchanges) []) :
    ∀ handle ∈ handles, Ended exchanges handle.child := fun handle member =>
  ((sweep.ended_or_running handle member).resolve_right List.not_mem_nil).mono
    (calls_subset exchanges)

/-- Kill rounds that go well end with everybody ended. -/
theorem killRounds_ended {interval rounds : Nat}
    (ran : Runs (killRounds interval handles rounds) exchanges (.ok ())) :
    ∀ handle ∈ handles, Ended exchanges handle.child := by
  induction rounds generalizing exchanges with
  | zero =>
    obtain ⟨asked, told, pids, rfl, surveyed, after⟩ := (runs_bind _ _ _ _).mp ran
    obtain ⟨running, sweep, rfl⟩ := runs_survivors surveyed
    cases running with
    | nil =>
      exact fun handle member =>
        (sweep.ended_of_nil handle member).mono (List.subset_append_left _ _)
    | cons first others =>
      obtain ⟨_, _, _, rfl, -, done⟩ := (runs_bind _ _ _ _).mp after
      cases (runs_pure.mp done).2
  | succ rounds ih =>
    rw [killRounds] at ran
    obtain ⟨swept, rest, found, rfl, stopped, after⟩ := (runs_bind _ _ _ _).mp ran
    obtain ⟨running, sweep, rfl⟩ := runs_stopAll stopped
    cases running with
    | nil =>
      exact fun handle member =>
        (sweep.ended_of_nil handle member).mono (List.subset_append_left _ _)
    | cons first others =>
      obtain ⟨slept, later, rfl, again⟩ := runs_ask.mp after
      exact fun handle member => (ih again handle member).mono fun exchange inside =>
        List.mem_append_right _ (List.mem_cons_of_mem _ inside)

variable {policy : TerminationPolicy} {left : List Handle}

/-- **A termination that goes well** is a sweep that asks to stop, and what follows it asks nobody
to stop any more. In the end everybody has ended. -/
theorem run_ended (ran : Runs (run policy handles) exchanges (.ok (), left)) :
    ∃ sweep rest running, exchanges = sweep ++ rest ∧
      Sweep (some .ask) handles (calls sweep) running ∧ terminations rest = [] ∧
      ∀ handle ∈ handles, Ended exchanges handle.child := by
  obtain ⟨-, sweep, rest, running, rfl, swept, ⟨rfl, rfl, -⟩ | ⟨killed, rfl, killing⟩⟩ :=
    runs_run ran
  · refine ⟨sweep, [], [], rfl, swept, rfl, fun handle member => ?_⟩
    exact (swept.ended_of_nil handle member).mono (List.subset_append_left _ _)
  · refine ⟨sweep, _, running, rfl, swept, ?_, fun handle member => ?_⟩
    · exact terminations_eq_nil (List.forall_mem_cons.mpr ⟨trivial, fun exchange member =>
        (killing.asked (killRounds_isSweeping handles _ _) exchange member).asksNobody⟩)
    · exact (killRounds_ended killing handle member).mono fun exchange inside =>
        List.mem_append_right _ (List.mem_cons_of_mem _ inside)

end Ends

end Termination

section Supervision

variable {keepsAlive : Role → Bool} {handles : List Handle} {exchanges : List Exchange}

/-- When a pass finds the job over and nobody failed, whoever would have kept it alive has answered
the exit code zero. -/
theorem Supervision.Polled.finished {found : Supervision.Survey}
    (polled : Supervision.Polled keepsAlive handles exchanges (.ok found))
    (lifeless : found.alive = false) (faultless : found.failed = []) {handle : Handle}
    (member : handle ∈ handles) (counts : keepsAlive handle.role) :
    ⟨.poll handle.child, .ok (some 0)⟩ ∈ exchanges := by
  cases polled with
  | all statuses complete =>
    obtain ⟨slot, here⟩ := List.mem_iff_getElem?.mp member
    obtain ⟨bound, -⟩ := List.getElem?_eq_some_iff.mp here
    obtain ⟨status, answer⟩ : ∃ status, statuses[slot]? = some status :=
      ⟨_, List.getElem?_eq_getElem (complete ▸ bound)⟩
    have said : (statuses.map .ok)[slot]? = some (.ok status : Except IoError _) := by
      rw [List.getElem?_map, answer]; rfl
    have silent := List.any_eq_false.mp lifeless (handle, status)
      (List.mem_iff_getElem?.mpr ⟨slot, List.getElem?_zip_eq_some.mpr ⟨here, answer⟩⟩)
    cases status with
    | none => simp [counts] at silent
    | some code =>
      by_cases zero : code = 0
      · exact zero ▸ Supervision.mem_polling here said
      · have failed : handle.failure code ∈
            (Supervision.summary keepsAlive handles statuses).failed :=
          Supervision.mem_failed_summary here answer zero
        rw [faultless] at failed
        cases failed

/-- **A supervision that ends well** has signalled nobody, and everybody who would have kept the job
alive has answered the exit code zero. -/
theorem Watchdog.runUntil_finished {watchdog : Watchdog} {nranks passes : Nat} {left : List Handle}
    (ran : Runs (watchdog.runUntil keepsAlive nranks passes handles) exchanges (.ok (), left)) :
    Unsignalled exchanges ∧ ∀ handle ∈ handles, keepsAlive handle.role →
      ⟨.poll handle.child, .ok (some 0)⟩ ∈ exchanges := by
  obtain ⟨count, before, current, ending, rfl, rounds, ends⟩ := runs_runUntil ran
  obtain ⟨-, -, same⟩ | ⟨-, ends⟩ := ends
  · cases same
  · cases ends with
    | @finished checked during _ looked passed =>
      refine ⟨rounds.unsignalled.append ((isInterrupted_unsignalled looked).append
        (Supervision.pass_unsignalled passed)), fun handle member counts => ?_⟩
      obtain ⟨-, found, polled, judged⟩ := Supervision.runs_pass passed
      cases found with
      | error error => cases judged
      | ok found =>
        rw [Supervision.judge] at judged
        split at judged
        · rename_i faultless
          have lifeless := (Except.ok.inj judged).symm
          have polled := polled.of_bare rounds.bare.symm
          have answered := polled.finished lifeless faultless member counts
          exact List.mem_append_right _ (List.mem_append_right _ (calls_subset during answered))
        · cases judged

end Supervision

namespace Job

section Completion

variable {config : LaunchConfig} {context : JobContext} {passes index : Nat} {cluster : Cluster}
  {pod : Pod} {handles : List Handle} {exchanges : List Exchange}

/-- Stopping the servers begins with a note and a sweep that asks to stop. When it goes well, nobody
is asked to stop afterwards, and everybody has ended. -/
theorem stopServers_ended {policy : TerminationPolicy}
    (ran : Runs (stopServers policy handles).run exchanges (.ok ())) :
    ∃ sweep rest running,
      exchanges = ⟨.report ⟨.info, "all workers exited, stopping servers and heter workers"⟩, ()⟩ ::
        (sweep ++ rest) ∧
      Termination.Sweep (some .ask) handles (calls sweep) running ∧ terminations rest = [] ∧
      ∀ handle ∈ handles, Ended (sweep ++ rest) handle.child := by
  obtain ⟨_, same, -⟩ | ⟨told, later, _, rfl, reported, after⟩ := runs_run_bind.mp ran
  · cases same
  obtain ⟨_, same, -⟩ | ⟨stopping, last, _, rfl, attempted, reporting⟩ := runs_run_bind.mp after
  · cases same
  obtain ⟨answer, terminating, same⟩ := runs_attempt attempted
  obtain ⟨exchanges, nothing, ⟨outcome, closed⟩, rfl, terminated, done⟩ :=
    (runs_bind _ _ _ _).mp terminating
  obtain ⟨rfl, rfl⟩ := runs_pure.mp done
  cases answer with
  | error error => cases same
  | ok =>
    obtain ⟨sweep, rest, running, rfl, swept, nobody, ended⟩ := Termination.run_ended terminated
    obtain ⟨noted, nothing, _, rfl, noting, done⟩ := (runs_bind _ _ _ _).mp reported
    obtain ⟨rfl, -⟩ := runs_pure.mp done
    obtain rfl := runs_request.mp noting
    refine ⟨sweep, rest ++ last, running, ?_, swept, ?_, fun handle member => ?_⟩
    · simp only [List.append_nil, List.append_assoc, List.singleton_append]
    · rw [terminations_append, nobody, terminations_eq_nil fun exchange member =>
        ((runs_report reporting).1 exchange member).asksNobody, List.append_nil]
    · rw [← List.append_assoc]
      exact (ended handle member).mono (List.subset_append_left _ _)

/-- Attending to the processes of a parameter-server job that ends well is a supervision that ends
well and the stop of the servers. -/
theorem attend_ended
    (ran : Runs (attend context passes cluster pod .parameterServer handles).run exchanges
      (.ok ())) :
    ∃ watching stopping left, exchanges = watching ++ stopping ∧
      Runs (context.watchdog.runUntil (keepsAlive pod) cluster.trainerCount passes handles)
        watching (.ok (), left) ∧
      Runs (stopServers context.watchdog.termination left).run stopping (.ok ()) := by
  obtain ⟨_, same, -⟩ | ⟨watching, stopping, left, rfl, supervised, stopped⟩ :=
    runs_run_bind.mp ran
  · cases same
  obtain ⟨_, same, watched⟩ | ⟨_, _, same, -⟩ := runs_supervise supervised
  · cases same
    exact ⟨watching, stopping, left, rfl, watched, stopped⟩
  · cases same

/-- The parts of a run that ends well of the driver with parameter servers. -/
theorem runServers_ended
    (ran : Runs (runServers config context passes).run exchanges (.ok ())) :
    ∃ cluster index directory handles left starting watching sweep rest running removed,
      config.serverDescription.build context.node.resolver = .ok (cluster, index) ∧
      exchanges = (⟨.createRendezvous rendezvousStem, .ok directory⟩ :: (starting ++ watching)) ++
        ⟨.report ⟨.info, "all workers exited, stopping servers and heter workers"⟩, ()⟩ ::
          (sweep ++ (rest ++ [⟨.removeRendezvous directory, removed⟩])) ∧
      Runs (startup config context cluster (podAt cluster index) directory .parameterServer)
        starting (.ok (), handles) ∧
      Runs (context.watchdog.runUntil (keepsAlive (podAt cluster index)) cluster.trainerCount passes
        handles) watching (.ok (), left) ∧
      spawned exchanges = handles.map Handle.child ∧
      Termination.Sweep (some .ask) left (calls sweep) running ∧ terminations rest = [] ∧
      ∀ handle ∈ left, Ended (sweep ++ rest) handle.child := by
  obtain ⟨error, -, -, same⟩ | ⟨cluster, index, built, within⟩ := runs_runServers ran
  · cases same
  obtain ⟨error, -, same⟩ | ⟨directory, during, last, ended, rfl, inside, ending, closing⟩ :=
    runs_within within
  · cases same
  obtain rfl := ending rfl
  obtain ⟨same, -⟩ | ⟨-, removed, rfl⟩ := closing
  · cases same
  obtain ⟨_, _, same, -⟩ | ⟨starting, attending, handles, rfl, started, attended⟩ :=
    runs_perform inside
  · cases same
  have early : Idle [⟨.createRendezvous rendezvousStem, .ok directory⟩] :=
    fun exchange member => List.mem_singleton.mp member ▸ trivial
  have late : Idle [⟨.removeRendezvous directory, removed⟩] :=
    fun exchange member => List.mem_singleton.mp member ▸ trivial
  have begun := (spawned_by_start early started attended late).2
  obtain ⟨watching, stopping, left, rfl, watched, stopped⟩ := attend_ended attended
  obtain ⟨sweep, rest, running, rfl, swept, nobody, ended⟩ := stopServers_ended stopped
  refine ⟨cluster, index, directory, handles, left, starting, watching, sweep, rest, running,
    removed, built, ?_, started, watched, ?_, swept, nobody, ended⟩
  · simp only [List.cons_append, List.append_assoc]
  · rw [List.append_assoc]
    exact begun

/-- A start that goes well signals nobody. -/
theorem startup_unsignalled {directory : String} {kind : JobKind}
    (ran : Runs (startup config context cluster pod directory kind) exchanges (.ok (), handles)) :
    Unsignalled exchanges := by
  cases (startup_courses ran).performs.starts with
  | all opens =>
    rw [← unsignalled_calls, opens.unharmed]
    exact unsignalled_nil

/-- **How a job with parameter servers ends well**, on a machine that keeps exit codes. The
processes of the pod were started, and by the time of the note that the workers are done nobody has
been signalled. Every worker has answered the exit code zero by then, and is never signalled. What
follows is a sweep in which every process is polled once. A process is asked to stop exactly once if
its answer in the sweep has no exit code, because it runs or cannot be polled, and never otherwise;
and in the end every process, be it a server, a worker or a heter worker, has answered an exit
code. -/
theorem runServers_completes (ran : Runs (runServers config context passes).run exchanges (.ok ()))
    (kept : KeepsExitCodes exchanges) :
    ∃ (cluster : Cluster) (index : Nat) (directory : String) (handles : List Handle)
        (codes : List (Option Int)) (before sweep after : List Exchange),
      config.serverDescription.build context.node.resolver = .ok (cluster, index) ∧
      exchanges = before ++
        ⟨.report ⟨.info, "all workers exited, stopping servers and heter workers"⟩, ()⟩ ::
          (sweep ++ after) ∧
      Fill config context cluster directory .parameterServer before
        ((podAt cluster index).posts (roles .parameterServer)) handles ∧
      spawned exchanges = handles.map Handle.child ∧
      Unsignalled before ∧
      (∀ handle : Handle, handle ∈ handles → handle.role = .trainer →
        ⟨.poll handle.child, .ok (some 0)⟩ ∈ before ∧
          ∀ exchange ∈ exchanges, ¬exchange.Signals handle.child) ∧
      codes.length = handles.length ∧
      sweep.filterMap told? = (handles.map Handle.child).zip codes ∧
      ∀ (place : Nat) (handle : Handle) (code : Option Int),
        handles[place]? = some handle → codes[place]? = some code →
          Ended exchanges handle.child ∧
            (terminations exchanges).count handle.child = if code.isNone then 1 else 0 := by
  have cares := runServers_cares ran
  obtain ⟨cluster, index, directory, handles, left, starting, watching, sweep, rest, running,
    removed, built, split, started, watched, children, swept, nobody, ended⟩ := runServers_ended ran
  obtain ⟨unsignalled, finished⟩ := Watchdog.runUntil_finished watched
  -- the handles that are left are those of the start, up to what is known of their logs
  have same : left.map Handle.child = handles.map Handle.child :=
    map_child_of_bare (Watchdog.runUntil_ended watched).1
  have quiet : Unsignalled
      (⟨.createRendezvous rendezvousStem, .ok directory⟩ :: (starting ++ watching)) :=
    .cons rfl ((startup_unsignalled started).append unsignalled)
  obtain ⟨codes, complete, told, counts⟩ := swept.counts (same ▸ children ▸ cares.distinct)
  rw [told_calls, same] at told
  refine ⟨cluster, index, directory, handles, codes, _, sweep, _, built, split, ?_, children, quiet,
    ?_, ?_, told, ?_⟩
  · refine (startup_filled started).1.mono fun exchange inside => ?_
    exact List.mem_cons_of_mem _ (List.mem_append_left _ inside)
  · intro handle member worker
    have answered := List.mem_cons_of_mem ⟨.createRendezvous rendezvousStem, .ok directory⟩
      (List.mem_append_right starting (finished handle member (by simp [keepsAlive, worker])))
    have spares := cares.sparesEnded kept
    rw [split] at spares ⊢
    have spared := spares.afterwards ⟨_, answered, 0, .inl rfl⟩
    exact ⟨answered, List.forall_mem_append.mpr
      ⟨fun exchange early => quiet exchange early handle.child, spared⟩⟩
  · have lengths := congrArg List.length same
    rw [List.length_map, List.length_map] at lengths
    exact complete.trans lengths
  · intro place handle code here found
    obtain ⟨other, there, alike⟩ := exists_getElem?_of_map_eq same here
    have count := counts place other code there found
    rw [terminations_calls, alike] at count
    constructor
    · rw [split, ← alike]
      refine (ended other (List.mem_of_getElem? there)).mono fun exchange inside => ?_
      refine List.mem_append_right _ (List.mem_cons_of_mem _ ?_)
      rw [← List.append_assoc]
      exact List.mem_append_left _ inside
    · have afterwards : terminations (rest ++ [⟨.removeRendezvous directory, removed⟩]) = [] := by
        rw [terminations_append, nobody]
        rfl
      rw [split, terminations_append, quiet.terminations, List.nil_append]
      show (terminations (sweep ++ _)).count handle.child = _
      rw [terminations_append, afterwards, List.append_nil, count]

/-- A launcher on a node with one device. -/
def deviceContext : JobContext :=
  { bareContext with node := { bareContext.node with deviceFiles := ["nvidia0"] } }

/-- A machine on which the server runs until it is stopped, and the worker and the heter worker end
well. -/
def servedMachine : Stage :=
  .initial .empty [.plain none 0, .plain (some 1) 0] (.plain (some 0) 0)

/-- What is said during a job with a server, a worker and a heter worker. -/
def servedJob : List Exchange :=
  (runServers heterJob deviceContext 2).run.transcript Stage.host servedMachine

theorem runServers_completes_servedJob :
    ∃ (handles : List Handle) (codes : List (Option Int)) (before sweep after : List Exchange),
      handles.map Handle.child = [0, 1, 2] ∧ codes.length = 3 ∧
      servedJob = before ++
        ⟨.report ⟨.info, "all workers exited, stopping servers and heter workers"⟩, ()⟩ ::
          (sweep ++ after) ∧
      Unsignalled before ∧ sweep.filterMap told? = [0, 1, 2].zip codes ∧
      ∀ (place : Nat) (handle : Handle) (code : Option Int),
        handles[place]? = some handle → codes[place]? = some code →
          Ended servedJob handle.child ∧
            (terminations servedJob).count handle.child = if code.isNone then 1 else 0 := by
  have ended : ((runServers heterJob deviceContext 2).run.run Stage.host servedMachine).1 =
      .ok () := by decide +kernel
  have started : spawned servedJob = [0, 1, 2] := by decide +kernel
  have ran := runs_transcript Stage.host (runServers heterJob deviceContext 2).run servedMachine
  rw [ended] at ran
  obtain ⟨_, _, _, handles, codes, before, sweep, after, -, split, -, children, quiet, -, complete,
    told, fates⟩ := runServers_completes ran (keepsExitCodes_of_told (by decide +kernel))
  have children : handles.map Handle.child = [0, 1, 2] := children.symm.trans started
  have count := congrArg List.length children
  rw [List.length_map] at count
  rw [children] at told
  exact ⟨handles, codes, before, sweep, after, children, complete.trans count, split, quiet, told,
    fates⟩

end Completion

end Job

end TrainingLauncher
