/-
What one pass of the supervision finds out. A pass polls the processes in order. Its result is a
function of the answers: the first refused poll ends it and is all that is known of it; otherwise
the survey is the summary of all answers.

* `Polled`: the polls of a pass and what it makes of them.
* `runs_survey`, `runs_pass`: every pass is of this form, and changes nothing of a process but how
  much of its log has been forwarded.
-/

import TrainingLauncher.Proofs.LogTail
import TrainingLauncher.Supervision

namespace TrainingLauncher

open Program

namespace Supervision

section Summary

/-- What the answers of the processes come to: whether one runs that keeps the job alive, and which
have failed. -/
def summary (keepsAlive : Role → Bool) (handles : List Handle) (statuses : List (Option Int)) :
    Survey where
  alive := (handles.zip statuses).any fun (handle, status) =>
    keepsAlive handle.role && status.isNone
  failed := (handles.zip statuses).filterMap fun (handle, status) =>
    (status.filter (· ≠ 0)).map handle.failure

variable {keepsAlive : Role → Bool}

theorem summary_cons (handle : Handle) (status : Option Int) (handles : List Handle)
    (statuses : List (Option Int)) :
    summary keepsAlive (handle :: handles) (status :: statuses) =
      (summary keepsAlive handles statuses).add keepsAlive handle status := by
  cases status with
  | none => simp [summary, Survey.add]
  | some code =>
    by_cases zero : code = 0
    · simp [summary, Survey.add, zero]
    · simp [summary, Survey.add, zero, Option.filter]

/-- A survey does not look at logs. -/
theorem add_bare (found : Survey) (handle : Handle) (status : Option Int) :
    found.add keepsAlive handle.bare status = found.add keepsAlive handle status := by
  cases status <;> rfl

theorem summary_bare (handles : List Handle) (statuses : List (Option Int)) :
    summary keepsAlive (handles.map Handle.bare) statuses =
      summary keepsAlive handles statuses := by
  simp only [summary, List.zip_map_left, List.any_map, List.filterMap_map]
  rfl

/-- A process fails when it has ended with an exit code other than zero. -/
theorem mem_failed_summary {handles : List Handle} {statuses : List (Option Int)} {slot : Nat}
    {handle : Handle} {code : Int} (here : handles[slot]? = some handle)
    (status : statuses[slot]? = some (some code)) (nonzero : code ≠ 0) :
    handle.failure code ∈ (summary keepsAlive handles statuses).failed := by
  refine List.mem_filterMap.mpr ⟨(handle, some code), ?_, by simp [Option.filter, nonzero]⟩
  exact List.mem_iff_getElem?.mpr ⟨slot, List.getElem?_zip_eq_some.mpr ⟨here, status⟩⟩

end Summary

section Polls

/-- The polls of some children, with their answers. -/
def polling (children : List Nat) (answers : List (Except IoError (Option Int))) : List Exchange :=
  List.zipWith (fun child answer => ⟨.poll child, answer⟩) children answers

theorem mem_polling {handles : List Handle} {answers : List (Except IoError (Option Int))}
    {slot : Nat} {handle : Handle} {answer : Except IoError (Option Int)}
    (here : handles[slot]? = some handle) (said : answers[slot]? = some answer) :
    (⟨.poll handle.child, answer⟩ : Exchange) ∈ polling (handles.map Handle.child) answers := by
  refine List.mem_iff_getElem?.mpr ⟨slot, ?_⟩
  rw [polling, List.getElem?_zipWith, List.getElem?_map, here, said]
  rfl

theorem polls_polling {children : List Nat} {answers : List (Except IoError (Option Int))}
    (enough : answers.length ≤ children.length) : polls (polling children answers) = answers := by
  induction children generalizing answers with
  | nil => rw [List.length_eq_zero_iff.mp (Nat.le_zero.mp enough)]; rfl
  | cons child children ih =>
    cases answers with
    | nil => rfl
    | cons answer answers =>
      exact congrArg (answer :: ·) (ih (Nat.le_of_succ_le_succ enough))

/-- Polls alone are guarded. -/
theorem polling_guarded (children : List Nat) (answers : List (Except IoError (Option Int))) :
    Guarded (polling children answers) := by
  induction children generalizing answers with
  | nil => exact .nil
  | cons child children ih =>
    cases answers with
    | nil => exact .nil
    | cons answer answers => exact .poll child answer (ih answers)

/-- Polls signal nobody. -/
theorem polling_unsignalled (children : List Nat) (answers : List (Except IoError (Option Int))) :
    Unsignalled (polling children answers) := by
  intro exchange member child signals
  rw [polling, ← List.map_uncurry_zip_eq_zipWith] at member
  obtain ⟨⟨other, answer⟩, -, rfl⟩ := List.mem_map.mp member
  rcases signals with same | same <;> cases same

/-- The process control of a pass over processes, and what the pass makes of it. -/
inductive Polled (keepsAlive : Role → Bool) (handles : List Handle) :
    List Exchange → Except IoError Survey → Prop
  /-- Every process has answered. -/
  | all (statuses : List (Option Int)) (complete : statuses.length = handles.length) :
      Polled keepsAlive handles (polling (handles.map Handle.child) (statuses.map .ok))
        (.ok (summary keepsAlive handles statuses))
  /-- After some answers a poll was refused. -/
  | refused (statuses : List (Option Int)) (error : IoError)
      (early : statuses.length < handles.length) :
      Polled keepsAlive handles
        (polling (handles.map Handle.child) (statuses.map .ok ++ [.error error])) (.error error)

variable {keepsAlive : Role → Bool} {handles : List Handle} {exchanges : List Exchange}
  {found : Except IoError Survey}

/-- One more process in front of a pass, which has answered. -/
theorem Polled.cons (polled : Polled keepsAlive handles exchanges found) (handle : Handle)
    (status : Option Int) :
    Polled keepsAlive (handle :: handles) (⟨.poll handle.child, .ok status⟩ :: exchanges)
      (found.map (·.add keepsAlive handle status)) := by
  cases polled with
  | all statuses complete =>
    rw [Except.map, ← summary_cons]
    exact .all (status :: statuses) (congrArg (· + 1) complete)
  | refused statuses error early =>
    exact .refused (status :: statuses) error (Nat.succ_lt_succ early)

/-- A pass whose first poll is refused is over. -/
theorem Polled.first (handle : Handle) (rest : List Handle) (error : IoError) :
    Polled keepsAlive (handle :: rest) [⟨.poll handle.child, .error error⟩] (.error error) := by
  have early : ([] : List (Option Int)).length < (handle :: rest).length := Nat.succ_pos _
  have polled := @Polled.refused keepsAlive (handle :: rest) [] error early
  rwa [List.map_cons, List.map_nil, List.nil_append, polling, List.zipWith_cons_cons,
    List.zipWith_nil_right] at polled

theorem Polled.guarded (polled : Polled keepsAlive handles exchanges found) :
    Guarded exchanges := by
  cases polled <;> exact polling_guarded _ _

theorem Polled.unsignalled (polled : Polled keepsAlive handles exchanges found) :
    Unsignalled exchanges := by
  cases polled <;> exact polling_unsignalled _ _

/-- A pass does not look at logs. -/
theorem Polled.of_bare {others : List Handle} (polled : Polled keepsAlive handles exchanges found)
    (same : others.map Handle.bare = handles.map Handle.bare) :
    Polled keepsAlive others exchanges found := by
  have children := map_child_of_bare same
  have lengths : others.length = handles.length := by
    simpa only [List.length_map] using congrArg List.length same
  cases polled with
  | all statuses complete =>
    rw [← summary_bare, ← same, summary_bare, ← children]
    exact .all statuses (complete.trans lengths.symm)
  | refused statuses error early =>
    rw [← children]
    exact .refused statuses error (by rwa [lengths])

/-- When a pass finds the job over, whoever would have kept it alive has ended. -/
theorem Polled.ended {found : Survey} (polled : Polled keepsAlive handles exchanges (.ok found))
    (lifeless : found.alive = false) {handle : Handle} (member : handle ∈ handles)
    (counts : keepsAlive handle.role) : Ended exchanges handle.child := by
  cases polled with
  | all statuses complete =>
    obtain ⟨slot, here⟩ := List.mem_iff_getElem?.mp member
    obtain ⟨bound, -⟩ := List.getElem?_eq_some_iff.mp here
    obtain ⟨status, answer⟩ : ∃ status, statuses[slot]? = some status :=
      ⟨_, List.getElem?_eq_getElem (complete ▸ bound)⟩
    have silent := List.any_eq_false.mp lifeless (handle, status)
      (List.mem_iff_getElem?.mpr ⟨slot, List.getElem?_zip_eq_some.mpr ⟨here, answer⟩⟩)
    cases status with
    | none => simp [counts] at silent
    | some code =>
      have said : (statuses.map .ok)[slot]? = some (.ok (some code) : Except IoError _) := by
        rw [List.getElem?_map, answer]; rfl
      exact ⟨_, mem_polling here said, code, .inl rfl⟩

end Polls

section Runs

variable {keepsAlive : Role → Bool} {handles : List Handle} {exchanges : List Exchange}

theorem forwardLog_isTailing (handle : Handle) : (forwardLog handle).Asks Request.IsTailing := by
  unfold forwardLog
  split
  · refine asks_bind (LogTail.pull_isTailing handle) fun (result, pulled) => ?_
    cases result with
    | ok => exact asks_pure _
    | error error => exact asks_bind (report_asks _ _ trivial) fun _ => asks_pure _
  · exact asks_pure _

theorem forwardLog_isIdle (handle : Handle) : (forwardLog handle).Asks Request.IsIdle :=
  (forwardLog_isTailing handle).mono fun _ => Request.IsTailing.idle

/-- Looking after a log moves on in it at most. -/
theorem runs_forwardLog {handle forwarded : Handle}
    (ran : Runs (forwardLog handle) exchanges forwarded) : forwarded.bare = handle.bare := by
  rw [forwardLog] at ran
  split at ran
  · obtain ⟨first, second, ⟨result, pulled⟩, rfl, pulling, after⟩ := (runs_bind _ _ _ _).mp ran
    have same := LogTail.runs_pull pulling
    cases result with
    | ok =>
      obtain ⟨-, rfl⟩ := runs_pure.mp after
      exact same
    | error error =>
      obtain ⟨told, rest, _, rfl, -, done⟩ := (runs_bind _ _ _ _).mp after
      obtain ⟨-, rfl⟩ := runs_pure.mp done
      exact same
  · obtain ⟨-, rfl⟩ := runs_pure.mp ran
    rfl

theorem reportFailure_isReport (status : Option Int) :
    (reportFailure status).Asks Request.IsReport := by
  unfold reportFailure
  split
  · exact asks_pure _
  · split
    · exact asks_pure _
    · exact report_asks _ _ trivial

theorem reportFailure_isIdle (status : Option Int) :
    (reportFailure status).Asks Request.IsIdle :=
  (reportFailure_isReport status).mono fun _ => Request.IsReport.idle

/-- **A survey is made of polls**, in the order of the processes, and its result is decided by the
answers. -/
theorem runs_survey {outcome : Except IoError Survey × List Handle}
    (ran : Runs (survey keepsAlive handles) exchanges outcome) :
    Polled keepsAlive handles (calls exchanges) outcome.1 ∧
      outcome.2.map Handle.bare = handles.map Handle.bare := by
  induction handles generalizing exchanges outcome with
  | nil =>
    obtain ⟨rfl, rfl⟩ := runs_pure.mp ran
    exact ⟨.all [] rfl, rfl⟩
  | cons handle rest ih =>
    rw [survey] at ran
    obtain ⟨first, second, pulled, rfl, forwarded, after⟩ := (runs_bind _ _ _ _).mp ran
    have idle : Idle first := forwarded.asked (forwardLog_isIdle handle)
    have bare := runs_forwardLog forwarded
    obtain ⟨answer, later, rfl, going⟩ := runs_ask.mp after
    have child : pulled.child = handle.child := by
      show pulled.bare.child = handle.bare.child
      rw [bare]
    have polled : calls (⟨.poll pulled.child, answer⟩ :: later) =
        ⟨.poll handle.child, answer⟩ :: calls later := by
      rw [child]; rfl
    rw [calls_append, idle.calls, List.nil_append, polled]
    cases answer with
    | error error =>
      obtain ⟨rfl, rfl⟩ := runs_pure.mp going
      exact ⟨.first handle rest error, by simp [bare]⟩
    | ok status =>
      obtain ⟨told, others, _, rfl, reported, surveyed⟩ := (runs_bind _ _ _ _).mp going
      obtain ⟨last, nothing, found, rfl, survey, done⟩ := (runs_bind _ _ _ _).mp surveyed
      obtain ⟨rfl, rfl⟩ := runs_pure.mp done
      obtain ⟨others, same⟩ := ih survey
      have quiet : Idle told := reported.asked (reportFailure_isIdle status)
      refine ⟨?_, by simp [bare, same]⟩
      have added : (fun one : Survey => one.add keepsAlive pulled status) =
          fun one => one.add keepsAlive handle status := by
        funext one
        rw [← add_bare, bare, add_bare]
      rw [calls_append, quiet.calls, calls_append, calls_nil, List.nil_append, List.append_nil]
      show Polled _ _ _ (Except.map _ _)
      rw [added]
      exact others.cons handle status

/-- The result of a pass, from its survey. -/
def judge (nranks : Nat) : Except IoError Survey → Except LaunchError Bool
  | .error error => .error (.io error)
  | .ok found =>
    if found.failed = [] then .ok found.alive else .error (.roleProcessFailure found.failed nranks)

/-- **What a pass does.** It polls, and judges what the polls have shown; no process is anything
else afterwards. -/
theorem runs_pass {nranks : Nat} {outcome : Except LaunchError Bool × List Handle}
    (ran : Runs (pass keepsAlive nranks handles) exchanges outcome) :
    outcome.2.map Handle.bare = handles.map Handle.bare ∧
      ∃ found, Polled keepsAlive handles (calls exchanges) found ∧
        outcome.1 = judge nranks found := by
  obtain ⟨first, second, ⟨found, left⟩, rfl, surveyed, after⟩ := (runs_bind _ _ _ _).mp ran
  obtain ⟨polled, same⟩ := runs_survey surveyed
  cases found with
  | error error =>
    obtain ⟨rfl, rfl⟩ := runs_pure.mp after
    rw [List.append_nil]
    exact ⟨same, .error error, polled, rfl⟩
  | ok found =>
    obtain ⟨alive, failed⟩ := found
    cases failed with
    | nil =>
      obtain ⟨rfl, rfl⟩ := runs_pure.mp after
      rw [List.append_nil]
      exact ⟨same, .ok ⟨alive, []⟩, polled, rfl⟩
    | cons one others =>
      obtain ⟨rfl, rfl⟩ := runs_pure.mp after
      rw [List.append_nil]
      exact ⟨same, .ok ⟨alive, one :: others⟩, polled, rfl⟩

/-- A pass signals nobody. -/
theorem pass_unsignalled {nranks : Nat} {outcome : Except LaunchError Bool × List Handle}
    (ran : Runs (pass keepsAlive nranks handles) exchanges outcome) : Unsignalled exchanges := by
  obtain ⟨-, found, polled, -⟩ := runs_pass ran
  exact unsignalled_calls.mp polled.unsignalled

theorem survey_isWatching : (survey keepsAlive handles).Asks Request.IsWatching := by
  induction handles with
  | nil => exact asks_pure _
  | cons handle rest ih =>
    have tails := (forwardLog_isTailing handle).mono fun _ => Request.IsTailing.watching
    refine asks_bind tails fun _ => asks_bind (asks_request trivial) fun answer => ?_
    cases answer with
    | error error => exact asks_pure _
    | ok status =>
      refine asks_bind ((reportFailure_isReport status).mono fun request reports => ?_) fun _ =>
        asks_bind ih fun _ => asks_pure _
      cases request <;> first | exact reports.elim | trivial

/-- A pass watches the processes and does nothing else. -/
theorem pass_isWatching (nranks : Nat) :
    (pass keepsAlive nranks handles).Asks Request.IsWatching := by
  refine asks_bind survey_isWatching fun (result, left) => ?_
  cases result with
  | error error => exact asks_pure _
  | ok found =>
    obtain ⟨alive, failed⟩ := found
    cases failed <;> exact asks_pure _

/-- A pass starts nothing and lets no time pass. -/
theorem pass_isPrompt (nranks : Nat) : (pass keepsAlive nranks handles).Asks Request.IsPrompt :=
  (pass_isWatching nranks).mono fun _ => Request.IsWatching.prompt

end Runs

end Supervision

end TrainingLauncher
