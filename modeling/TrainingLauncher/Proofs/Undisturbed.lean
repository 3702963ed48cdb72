/-
Supervision does not depend on what becomes of the output that it forwards. Two supervisions of the
same processes, whose machines differ in the logs and in the observer only, do the same and end the
same. This is a law about pairs of runs: as long as both have steered their processes in the same
way and the machines answer that in the same way, the rest of the answers does not matter.

* `steering`: the exchanges that have to do with the processes, the clock or the flag.
* `Alike`: two runs on machines that answer these in the same way.
* `Twins`: two programs which then steer in the same way, and whose values belong together.
* `Host.Follows`, `transcript_alike`: machines with the same processes make runs alike.
* `Stage.follows_muted`: files and observer of the rehearsal's machine have no bearing on them.
* `Watchdog.runUntil_undisturbed`: the supervision of a job.
-/

import TrainingLauncher.Proofs.Rounds
import TrainingLauncher.Proofs.Script

namespace TrainingLauncher

open Program

section Steering

instance decidableIsIdle : DecidablePred Request.IsIdle
  | .spawn .. | .sleep _ | .interrupted | .poll _ | .terminate _ | .kill _ | .wait _ => .isFalse id
  | .report _ | .createDirectory _ | .writeFile .. | .fileExists _ | .readFile _ | .openLog _
  | .readLog .. | .forward _ | .flushObserver | .print _ | .complain _ | .createRendezvous _
  | .removeRendezvous _ => .isTrue trivial

/-- What has to do with the processes, with the clock or with the flag. -/
def steering (exchanges : List Exchange) : List Exchange :=
  exchanges.filter fun exchange => ¬exchange.request.IsIdle

variable {exchanges : List Exchange}

theorem steering_append (first second : List Exchange) :
    steering (first ++ second) = steering first ++ steering second :=
  List.filter_append ..

theorem steering_cons_of_idle {exchange : Exchange} (idle : exchange.request.IsIdle) :
    steering (exchange :: exchanges) = steering exchanges :=
  List.filter_cons_of_neg (by simpa using idle)

theorem steering_cons_of_steers {exchange : Exchange} (steers : ¬exchange.request.IsIdle) :
    steering (exchange :: exchanges) = exchange :: steering exchanges :=
  List.filter_cons_of_pos (by simpa using steers)

theorem Idle.steering (idle : Idle exchanges) : steering exchanges = [] :=
  List.filter_eq_nil_iff.mpr fun exchange member => by simpa using idle exchange member

/-- All process control is steering. -/
theorem calls_steering (exchanges : List Exchange) :
    calls (steering exchanges) = calls exchanges := by
  rw [calls, steering, List.filter_filter]
  refine List.filter_congr fun exchange _ => ?_
  obtain ⟨request, answer⟩ := exchange
  cases request <;> rfl

/-- So are all pauses. -/
theorem pauses_steering (exchanges : List Exchange) :
    pauses (steering exchanges) = pauses exchanges := by
  rw [pauses, steering, List.filterMap_filter]
  refine congrArg (List.filterMap · exchanges) (funext fun exchange => ?_)
  obtain ⟨request, answer⟩ := exchange
  cases request <;> rfl

end Steering

section Alike

/-- The machines of two runs answer alike: after the same steering, a steering request has the same
answer. What else was said before does not matter. -/
def Alike (one other : List Exchange) : Prop :=
  ∀ history request answer reply after later,
    steering one = history ++ ⟨request, answer⟩ :: after →
    steering other = history ++ ⟨request, reply⟩ :: later → answer = reply

variable {first second third fourth : List Exchange}

/-- Runs that are alike have been alike before. -/
theorem Alike.left (alike : Alike (first ++ second) (third ++ fourth)) : Alike first third := by
  intro history request answer reply after later one other
  refine alike history request answer reply (after ++ steering second) (later ++ steering fourth)
    ?_ ?_
  · rw [steering_append, one, List.append_assoc, List.cons_append]
  · rw [steering_append, other, List.append_assoc, List.cons_append]

/-- After the same steering they stay alike. -/
theorem Alike.right (alike : Alike (first ++ second) (third ++ fourth))
    (same : steering first = steering third) : Alike second fourth := by
  intro history request answer reply after later one other
  refine alike (steering first ++ history) request answer reply after later ?_ ?_
  · rw [steering_append, one, List.append_assoc]
  · rw [steering_append, other, ← same, List.append_assoc]

/-- After a first exchange that steers in the same way they stay alike. -/
theorem Alike.tail {one other : Exchange} (alike : Alike (one :: first) (other :: second))
    (same : steering [one] = steering [other]) : Alike first second :=
  Alike.right (show Alike ([one] ++ first) ([other] ++ second) from alike) same

/-- The first steering request has the same answer. -/
theorem Alike.head {request : Request} {answer reply : request.Answer}
    (alike : Alike (⟨request, answer⟩ :: first) (⟨request, reply⟩ :: second))
    (steers : ¬request.IsIdle) : answer = reply :=
  alike [] request answer reply (steering first) (steering second)
    (steering_cons_of_steers steers) (steering_cons_of_steers steers)

end Alike

namespace Program

/-- Two programs steer in the same way on machines that answer alike, and their values belong
together. -/
def Twins (related : α → β → Prop) (one : Program α) (other : Program β) : Prop :=
  ∀ first value second result, Runs one first value → Runs other second result →
    Alike first second → steering first = steering second ∧ related value result

section Laws

variable {related : α → β → Prop} {one : Program α} {other : Program β}

theorem twins_pure {value : α} {result : β} (fine : related value result) :
    Twins related (pure value) (pure result) := by
  intro first _ second _ ran again _
  obtain ⟨rfl, rfl⟩ := runs_pure.mp ran
  obtain ⟨rfl, rfl⟩ := runs_pure.mp again
  exact ⟨rfl, fine⟩

/-- Sequences are twins when their parts are. -/
theorem twins_bind {result : γ → δ → Prop} {next : α → Program γ} {rest : β → Program δ}
    (twins : Twins related one other)
    (after : ∀ value answer, related value answer → Twins result (next value) (rest answer)) :
    Twins result (one >>= next) (other >>= rest) := by
  intro _ final _ outcome ran again alike
  obtain ⟨first, later, value, rfl, begun, ended⟩ := (runs_bind _ _ _ _).mp ran
  obtain ⟨second, last, answer, rfl, started, closed⟩ := (runs_bind _ _ _ _).mp again
  obtain ⟨same, fine⟩ := twins first value second answer begun started alike.left
  obtain ⟨equal, settled⟩ :=
    after value answer fine later final last outcome ended closed (alike.right same)
  exact ⟨by rw [steering_append, steering_append, same, equal], settled⟩

/-- Programs that do not steer are twins whatever they are answered, as far as their values belong
together. -/
theorem twins_of_idle (idle : one.Asks Request.IsIdle) (quiet : other.Asks Request.IsIdle)
    (fine : ∀ first value second result, Runs one first value → Runs other second result →
      related value result) : Twins related one other := by
  intro first value second result ran again _
  have nothing : Idle first := ran.asked idle
  have silence : Idle second := again.asked quiet
  exact ⟨nothing.steering.trans silence.steering.symm, fine first value second result ran again⟩

end Laws

end Program

/-- The request only tells the operator something, or it steers: what it is answered has nothing to
do with logs and the observer. -/
def Request.IsSteady (request : Request) : Prop := request.IsReport ∨ ¬request.IsIdle

theorem Request.IsStopping.steady {request : Request} (stopping : request.IsStopping) :
    request.IsSteady := by
  cases request <;> first | exact stopping.elim | exact .inl trivial | exact .inr id

/-- A program that makes steady requests only is a twin of itself. -/
theorem Program.twins_of_steady {program : Program α} (steady : program.Asks Request.IsSteady) :
    Twins Eq program program := by
  induction program with
  | done value => exact twins_pure rfl
  | ask request next ih =>
    intro _ final _ outcome ran again alike
    cases ran with
    | ask _ _ answer first _ rest =>
      cases again with
      | ask _ _ reply second _ last =>
        have same : answer = reply := by
          rcases steady.1 with reports | steers
          · cases request <;> first | exact reports.elim | rfl
          · exact alike.head steers
        subst same
        obtain ⟨equal, fine⟩ :=
          ih answer (steady.2 answer) first final second outcome rest last (alike.tail rfl)
        refine ⟨?_, fine⟩
        show steering ([_] ++ first) = steering ([_] ++ second)
        rw [steering_append, steering_append, equal]

section Handles

variable {handles others : List Handle}

/-- Two outcomes are the same but for the logs of the handles that are left. -/
def SameButLogs (one other : α × List Handle) : Prop :=
  one.1 = other.1 ∧ one.2.map Handle.bare = other.2.map Handle.bare

/-- Handles that agree but for their logs are there in pairs. -/
theorem forall₂_of_bare (same : handles.map Handle.bare = others.map Handle.bare) :
    List.Forall₂ (fun handle other => handle.bare = other.bare) handles others := by
  have related : List.Forall₂ (· = ·) (handles.map Handle.bare) (others.map Handle.bare) :=
    List.forall₂_eq_eq_eq ▸ same
  exact List.forall₂_map_right_iff.mp (List.forall₂_map_left_iff.mp related)

end Handles

namespace Termination

variable {policy : TerminationPolicy} {handles others : List Handle}

/-- To stop processes is a matter of the processes, not of their logs. -/
theorem stopAll_bare (means : Means) (handles : List Handle) :
    stopAll means (handles.map Handle.bare) = stopAll means handles := by
  induction handles with
  | nil => rfl
  | cons handle rest ih =>
    rw [List.map_cons, stopAll, stopAll, ih]
    rfl

theorem survivors_bare (handles : List Handle) :
    survivors (handles.map Handle.bare) = survivors handles := by
  induction handles with
  | nil => rfl
  | cons handle rest ih =>
    rw [List.map_cons, survivors, survivors, ih]
    rfl

theorem killRounds_bare (interval : Nat) (handles : List Handle) (rounds : Nat) :
    killRounds interval (handles.map Handle.bare) rounds = killRounds interval handles rounds := by
  induction rounds with
  | zero => rw [killRounds, killRounds, survivors_bare]
  | succ rounds ih => rw [killRounds, killRounds, stopAll_bare, ih]

theorem stopAll_twins (means : Means) (same : handles.map Handle.bare = others.map Handle.bare) :
    Twins Eq (stopAll means handles) (stopAll means others) := by
  rw [← stopAll_bare means handles, same, stopAll_bare]
  exact twins_of_steady ((stopAll_isSweeping _ means).mono fun _ sweeping =>
    sweeping.stopping.steady)

theorem killRounds_twins (interval rounds : Nat)
    (same : handles.map Handle.bare = others.map Handle.bare) :
    Twins Eq (killRounds interval handles rounds) (killRounds interval others rounds) := by
  rw [← killRounds_bare interval handles, same, killRounds_bare]
  exact twins_of_steady ((killRounds_isSweeping _ interval rounds).mono fun _ sweeping =>
    sweeping.stopping.steady)

/-- To terminate processes is a matter of the processes, not of their logs. -/
theorem run_twins (same : handles.map Handle.bare = others.map Handle.bare) :
    Twins SameButLogs (run policy handles) (run policy others) := by
  have closed : (handles.map Handle.closeLog).map Handle.bare =
      (others.map Handle.closeLog).map Handle.bare := by
    rw [List.map_map, List.map_map]
    exact same
  refine twins_bind (stopAll_twins .ask same) fun found answer equal => ?_
  subst equal
  cases found with
  | false => exact twins_pure ⟨rfl, closed⟩
  | true =>
    refine twins_bind (twins_of_steady (asks_request (.inr id))) fun _ _ _ => ?_
    refine twins_bind (killRounds_twins policy.interval policy.retries same) fun _ _ equal => ?_
    exact twins_pure ⟨equal, closed⟩

end Termination

namespace Supervision

variable {policy : TerminationPolicy} {keepsAlive : Role → Bool} {nranks : Nat}
  {handles others : List Handle}

/-- **Whatever becomes of a log, its handle is the same but for the log.** -/
theorem forwardLog_twins {handle other : Handle} (same : handle.bare = other.bare) :
    Twins (fun one another => one.bare = another.bare) (forwardLog handle) (forwardLog other) := by
  refine twins_of_idle (forwardLog_isIdle handle) (forwardLog_isIdle other) ?_
  intro first forwarded second tailed ran again
  rw [runs_forwardLog ran, runs_forwardLog again, same]

theorem reportFailure_twins (status : Option Int) :
    Twins Eq (reportFailure status) (reportFailure status) :=
  twins_of_steady ((reportFailure_isReport status).mono fun _ => .inl)

/-- A survey of the same processes finds the same. -/
theorem survey_twins (same : handles.map Handle.bare = others.map Handle.bare) :
    Twins SameButLogs (survey keepsAlive handles) (survey keepsAlive others) := by
  induction forall₂_of_bare same with
  | nil => exact twins_pure ⟨rfl, rfl⟩
  | @cons handle other handles others bare rest ih =>
    have tails : handles.map Handle.bare = others.map Handle.bare := (List.cons.inj same).2
    rw [survey, survey]
    refine twins_bind (forwardLog_twins bare) fun forwarded tailed equal => ?_
    have child : forwarded.child = tailed.child := by
      show forwarded.bare.child = tailed.bare.child
      rw [equal]
    rw [Handle.poll, Handle.poll, child]
    refine twins_bind (twins_of_steady (asks_request (.inr id))) fun answer _ answered => ?_
    subst answered
    cases answer with
    | error error => exact twins_pure ⟨rfl, by rw [List.map_cons, List.map_cons, equal, tails]⟩
    | ok status =>
      refine twins_bind (reportFailure_twins status) fun _ _ _ => ?_
      refine twins_bind (ih tails) ?_
      rintro ⟨found, left⟩ ⟨seen, kept⟩ ⟨agree, remaining⟩
      have added : (fun one : Survey => one.add keepsAlive forwarded status) =
          fun one => one.add keepsAlive tailed status := by
        funext one
        rw [← add_bare, equal, add_bare]
      refine twins_pure ⟨?_, ?_⟩
      · show found.map _ = seen.map _
        rw [added, show found = seen from agree]
      · show (forwarded :: left).map Handle.bare = (tailed :: kept).map Handle.bare
        rw [List.map_cons, List.map_cons, equal, show left.map Handle.bare = _ from remaining]

/-- A pass over the same processes comes to the same. -/
theorem pass_twins (same : handles.map Handle.bare = others.map Handle.bare) :
    Twins SameButLogs (pass keepsAlive nranks handles) (pass keepsAlive nranks others) := by
  refine twins_bind (survey_twins same) ?_
  rintro ⟨found, left⟩ ⟨seen, kept⟩ ⟨agree, remaining⟩
  cases show found = seen from agree
  cases found with
  | error error => exact twins_pure ⟨rfl, remaining⟩
  | ok found =>
    obtain ⟨alive, failed⟩ := found
    cases failed <;> exact twins_pure ⟨rfl, remaining⟩

theorem abort_twins {error : LaunchError}
    (same : handles.map Handle.bare = others.map Handle.bare) :
    Twins SameButLogs (abort policy handles error) (abort policy others error) := by
  refine twins_bind (Termination.run_twins same) ?_
  rintro ⟨ended, left⟩ ⟨stopped, kept⟩ ⟨agree, remaining⟩
  cases show ended = stopped from agree
  cases ended with
  | ok => exact twins_pure ⟨rfl, remaining⟩
  | error error =>
    exact twins_bind (twins_of_steady (report_asks _ _ (.inl trivial))) fun _ _ _ =>
      twins_pure ⟨rfl, remaining⟩

theorem abortPass_twins {error : LaunchError}
    (same : handles.map Handle.bare = others.map Handle.bare) :
    Twins SameButLogs (abortPass policy handles error) (abortPass policy others error) :=
  twins_bind (twins_of_steady (report_asks _ _ (.inl trivial))) fun _ _ _ => abort_twins same

end Supervision

namespace Watchdog

variable {watchdog : Watchdog} {keepsAlive : Role → Bool} {nranks passes : Nat}
  {handles others : List Handle}

theorem isInterrupted_steady : watchdog.isInterrupted.Asks Request.IsSteady := by
  rw [isInterrupted]
  split
  · exact asks_request (.inr id)
  · exact asks_pure _

/-- **Supervisions of the same processes are twins**, whatever becomes of the logs. -/
theorem runUntil_twins (same : handles.map Handle.bare = others.map Handle.bare) :
    Twins SameButLogs (watchdog.runUntil keepsAlive nranks passes handles)
      (watchdog.runUntil keepsAlive nranks passes others) := by
  induction passes generalizing handles others with
  | zero => exact twins_pure ⟨rfl, same⟩
  | succ passes ih =>
    rw [runUntil, runUntil]
    refine twins_bind (twins_of_steady isInterrupted_steady) fun seen _ equal => ?_
    subst equal
    cases seen with
    | true =>
      refine twins_bind (twins_of_steady (report_asks _ _ (.inl trivial))) fun _ _ _ => ?_
      refine twins_bind (Supervision.abort_twins same) ?_
      rintro ⟨error, left⟩ ⟨reason, kept⟩ ⟨agree, remaining⟩
      cases show error = reason from agree
      exact twins_pure ⟨rfl, remaining⟩
    | false =>
      refine twins_bind (Supervision.pass_twins same) ?_
      rintro ⟨result, left⟩ ⟨outcome, kept⟩ ⟨agree, remaining⟩
      cases show result = outcome from agree
      cases result with
      | error error =>
        refine twins_bind (Supervision.abortPass_twins remaining) ?_
        rintro ⟨error, left⟩ ⟨reason, kept⟩ ⟨agree, remaining⟩
        cases show error = reason from agree
        exact twins_pure ⟨rfl, remaining⟩
      | ok alive =>
        cases alive with
        | true =>
          exact twins_bind (twins_of_steady (asks_request (.inr id))) fun _ _ _ => ih remaining
        | false => exact twins_pure ⟨rfl, remaining⟩

end Watchdog

section Machines

/-- The processes, the clock and the flag of a machine are those of `core`, of which `view` shows
the state, and nothing else that happens on the machine bears on them. -/
structure Host.Follows (host : Host σ) (core : Host κ) (view : σ → κ) : Prop where
  idle : ∀ (request : Request) (state : σ), request.IsIdle →
    view (host.answer request state).2 = view state
  steers : ∀ (request : Request) (state : σ), ¬request.IsIdle →
    (host.answer request state).1 = (core.answer request (view state)).1 ∧
      view (host.answer request state).2 = (core.answer request (view state)).2

/-- The answers are those of a machine, from a state on. -/
def Answers (core : Host κ) : κ → List Exchange → Prop
  | _, [] => True
  | state, ⟨request, answer⟩ :: rest =>
    answer = (core.answer request state).1 ∧ Answers core (core.answer request state).2 rest

variable {host : Host σ} {rival : Host τ} {core : Host κ} {view : σ → κ} {sight : τ → κ}

/-- A machine steers as its core does. -/
theorem Host.Follows.answers (follows : host.Follows core view) (program : Program α) (state : σ) :
    Answers core (view state) (steering (program.transcript host state)) := by
  induction program generalizing state with
  | done value => exact trivial
  | ask request next ih =>
    rw [transcript]
    by_cases idle : request.IsIdle
    · rw [steering_cons_of_idle idle, ← follows.idle request state idle]
      exact ih _ _
    · obtain ⟨same, later⟩ := follows.steers request state idle
      rw [steering_cons_of_steers idle]
      exact ⟨same, later ▸ ih _ _⟩

/-- A machine answers in one way only. -/
theorem Answers.unique {state : κ} {history after later : List Exchange} {request : Request}
    {answer reply : request.Answer}
    (answers : Answers core state (history ++ ⟨request, answer⟩ :: after))
    (replies : Answers core state (history ++ ⟨request, reply⟩ :: later)) : answer = reply := by
  induction history generalizing state with
  | nil => exact answers.1.trans replies.1.symm
  | cons exchange history ih => exact ih answers.2 replies.2

/-- **Runs on two machines with the same processes, clock and flag are alike**, whatever else the
machines are. -/
theorem transcript_alike (follows : host.Follows core view) (likewise : rival.Follows core sight)
    {state : σ} {stage : τ} (same : view state = sight stage) (one : Program α)
    (other : Program β) : Alike (one.transcript host state) (other.transcript rival stage) := by
  intro history request answer reply after later begun started
  have answers := follows.answers one state
  have replies := likewise.answers other stage
  rw [begun] at answers
  rw [started, ← same] at replies
  exact answers.unique replies

end Machines

namespace Rehearsal

/-- The action bears on the processes or the flag. -/
def Action.Steers : Action → Bool
  | .finish _ _ | .interrupt => true
  | _ => false

namespace Stage

/-- What bears on the processes, the clock and the flag. The files, the observer and whatever the
machine keeps to be judged by are left out. -/
def muted (stage : Stage) : Stage :=
  { stage with
    files := .empty
    attempts := #[]
    sleeps := #[]
    cues := stage.cues.filter (·.action.Steers)
    observerMode := .collects
    observed := .empty
    rendezvous := none
    notes := #[] }

/-- The machine that is left when nothing else is kept. -/
def mutedHost : Host Stage where
  answer request stage := ((Stage.answer request stage).1, (Stage.answer request stage).2.muted)

variable {stage : Stage}

theorem muted_muted : stage.muted.muted = stage.muted := by
  simp [muted, List.filter_filter]

theorem muted_act_of_not {action : Action} (idle : action.Steers = false) :
    (stage.act action).muted = stage.muted := by
  cases action with
  | append file bytes =>
    rw [act, append]
    split <;> rfl
  | finish | interrupt => cases idle
  | _ => rfl

theorem muted_updateProcess (child : Nat) (update : ScriptedProcess → ScriptedProcess) :
    (stage.updateProcess child update).muted = stage.muted.updateProcess child update := rfl

theorem muted_act {action : Action} (steers : action.Steers) :
    (stage.act action).muted = stage.muted.act action := by
  cases action with
  | finish | interrupt => rfl
  | _ => cases steers

/-- Whatever happens after a sleep, only what steers matters. -/
theorem muted_acts (cues : List Cue) :
    (cues.foldl (fun stage cue => stage.act cue.action) stage).muted =
      (cues.filter (·.action.Steers)).foldl (fun stage cue => stage.act cue.action)
        stage.muted := by
  induction cues generalizing stage with
  | nil => rfl
  | cons cue cues ih =>
    rw [List.foldl_cons, ih]
    cases steers : cue.action.Steers with
    | true => rw [List.filter_cons, if_pos steers, List.foldl_cons, muted_act steers]
    | false => rw [List.filter_cons, if_neg (Bool.eq_false_iff.mp steers), muted_act_of_not steers]

theorem muted_ask (child : Nat)
    (request : ScriptedProcess → Except IoError α × ScriptedProcess) :
    (stage.ask child request).1 = (stage.muted.ask child request).1 ∧
      (stage.ask child request).2.muted = (stage.muted.ask child request).2.muted := by
  rw [ask, ask, show stage.muted.processes = stage.processes from rfl]
  cases stage.processes[child]? with
  | none => exact ⟨rfl, muted_muted.symm⟩
  | some process =>
    refine ⟨rfl, ?_⟩
    rw [muted_updateProcess, muted_updateProcess, muted_muted]

theorem muted_sleep (milliseconds : Nat) :
    (stage.sleep milliseconds).muted = (stage.muted.sleep milliseconds).muted := by
  rw [sleep, sleep, muted_acts, muted_acts]
  have cues : (stage.muted.cues.filter (·.sleeps == stage.sleepCount + 1)).filter
      (·.action.Steers) =
        (stage.cues.filter (·.sleeps == stage.sleepCount + 1)).filter (·.action.Steers) := by
    show ((stage.cues.filter _).filter _).filter _ = _
    simp only [List.filter_filter]
    refine List.filter_congr fun cue _ => ?_
    cases cue.action.Steers <;> simp
  rw [show stage.muted.sleepCount = stage.sleepCount from rfl, cues]
  congr 1
  simp [muted, List.filter_filter]

theorem muted_spawn (command : Command) (environment : Environment) (output : Output) :
    (stage.spawn command environment output).1 =
        (stage.muted.spawn command environment output).1 ∧
      (stage.spawn command environment output).2.muted =
        (stage.muted.spawn command environment output).2.muted := by
  rw [spawn, spawn, show stage.muted.script = stage.script from rfl,
    show stage.muted.fallback = stage.fallback from rfl,
    show stage.muted.processes = stage.processes from rfl]
  dsimp only
  split
  · exact ⟨rfl, by simp [muted, List.filter_filter]⟩
  · cases output with
    | inherit => exact ⟨rfl, by simp [muted, List.filter_filter]⟩
    | file path => exact ⟨rfl, by simp [muted, List.filter_filter]⟩

theorem follows_muted : host.Follows mutedHost muted := by
  constructor
  · intro request stage idle
    cases request with
    | spawn | sleep | interrupted | poll | terminate | kill | wait => exact idle.elim
    | writeFile path content =>
      show (stage.change _).2.muted = _
      cases stage.files.write path content.toUTF8 <;> rfl
    | openLog | forward | flushObserver | removeRendezvous =>
      show (Stage.answer _ stage).2.muted = _
      rw [Stage.answer]
      split <;> rfl
    | _ => rfl
  · intro request stage steers
    cases request with
    | spawn child command environment output => exact muted_spawn command environment output
    | sleep milliseconds => exact ⟨rfl, muted_sleep milliseconds⟩
    | interrupted => exact ⟨rfl, muted_muted.symm⟩
    | poll child => exact muted_ask child _
    | terminate child => exact muted_ask child _
    | kill child => exact muted_ask child _
    | wait child => exact muted_ask child _
    | _ => exact (steers trivial).elim

end Stage

end Rehearsal

namespace Watchdog

open Rehearsal

variable {watchdog : Watchdog} {keepsAlive : Role → Bool} {nranks passes : Nat}
  {handles others : List Handle} {one other : List Exchange}
  {outcome result : Except Stop Unit × List Handle}

/-- **Forwarding cannot disturb the supervision.** Of two supervisions of the same processes, on
machines where processes, clock and flag answer alike, one may have its log grow, shrink or vanish
and its observer refuse what it likes. They end the same and leave the same handles but for the
logs, they ask the processes for the same in the same order and are answered the same, and they
pause in the same way. -/
theorem runUntil_undisturbed (same : handles.map Handle.bare = others.map Handle.bare)
    (ran : Runs (watchdog.runUntil keepsAlive nranks passes handles) one outcome)
    (again : Runs (watchdog.runUntil keepsAlive nranks passes others) other result)
    (alike : Alike one other) :
    outcome.1 = result.1 ∧ outcome.2.map Handle.bare = result.2.map Handle.bare ∧
      calls one = calls other ∧ pauses one = pauses other ∧ steering one = steering other := by
  obtain ⟨steered, ended, left⟩ := runUntil_twins same one outcome other result ran again alike
  refine ⟨ended, left, ?_, ?_, steered⟩
  · rw [← calls_steering, steered, calls_steering]
  · rw [← pauses_steering, steered, pauses_steering]

/-- A trainer with a log that is forwarded. -/
def loggingTrainer : Handle :=
  { Stage.trainer 0 with logPath := some "workerlog.0", logOpen := true }

/-- The supervision of that trainer. -/
def loggingWatch : Program (Except Stop Unit × List Handle) :=
  runUntil ⟨3000, .standard, true⟩ (fun _ => true) 1 5 [loggingTrainer]

/-- A machine on which the trainer fails after two polls. Its log grows in the meantime, and the
observer takes everything. -/
def heardStage : Stage :=
  { Stage.opening [.plain (some 2) 3] with
    files := FileTree.empty.plant "workerlog.0" "step\n".toUTF8
    cues := [⟨1, .append "workerlog.0" "step\n".toUTF8⟩] }

/-- The same, except that the observer refuses everything and the log is removed. -/
def unheardStage : Stage :=
  { Stage.opening [.plain (some 2) 3] with
    files := FileTree.empty.plant "workerlog.0" "step\n".toUTF8
    cues := [⟨1, .remove "workerlog.0"⟩]
    observerMode := .refusesBytes }

theorem runUntil_undisturbed_unheardStage :
    (loggingWatch.run Stage.host heardStage).1.1 =
        (loggingWatch.run Stage.host unheardStage).1.1 ∧
      calls (loggingWatch.transcript Stage.host heardStage) =
        calls (loggingWatch.transcript Stage.host unheardStage) ∧
      pauses (loggingWatch.transcript Stage.host heardStage) =
        pauses (loggingWatch.transcript Stage.host unheardStage) := by
  have alike := transcript_alike Stage.follows_muted Stage.follows_muted
    (show heardStage.muted = unheardStage.muted from rfl) loggingWatch loggingWatch
  obtain ⟨ended, -, called, paused, -⟩ := runUntil_undisturbed rfl
    (runs_transcript Stage.host loggingWatch heardStage)
    (runs_transcript Stage.host loggingWatch unheardStage) alike
  exact ⟨ended, called, paused⟩

end Watchdog

end TrainingLauncher
