/-
What a program says to the machine. A run of a program leaves a list of exchanges; the laws of the
launcher are laws about such lists, whatever the machine has answered.

* `Program.runs_pure`, `Program.runs_request`, `Program.runs_ask`: the exchanges of the smallest
  programs; with `Program.runs_bind` they take a run apart along the text of its program.
* `Program.Runs.unique`: the exchanges decide where a run ends and with which value.
* `Program.runs_transcript`: what happens on a host is one of the runs.
* `Program.Asks allowed`: no answer makes the program ask for anything but what is allowed.
* `Request.IsStarting`, `Request.IsSupervising`, `Request.IsStopping` and the like: what a part of a
  job asks for.
* `pauses`, `spawned`, `attempts`, `polls`, `calls`: what is seen of a list of exchanges when only
  the sleeps, the started children, those that were to be started, the answers to polls or the
  process control matter.
-/

import TrainingLauncher.Handle

namespace TrainingLauncher

namespace Program

section Runs

@[simp] theorem runs_pure {value result : α} {exchanges : List Exchange} :
    Runs (pure value) exchanges result ↔ exchanges = [] ∧ result = value := by
  constructor
  · intro ran
    cases ran
    exact ⟨rfl, rfl⟩
  · rintro ⟨rfl, rfl⟩
    exact .done _

@[simp] theorem runs_request {asked : Request} {exchanges : List Exchange}
    {answer : asked.Answer} :
    Runs (request asked) exchanges answer ↔ exchanges = [⟨asked, answer⟩] := by
  constructor
  · intro ran
    cases ran with
    | ask _ _ _ rest _ tail =>
      cases tail
      rfl
  · rintro rfl
    exact .ask _ _ _ _ _ (.done _)

/-- A program that asks first leaves that exchange first. -/
theorem runs_ask {asked : Request} {next : asked.Answer → Program α} {exchanges : List Exchange}
    {value : α} :
    Runs (request asked >>= next) exchanges value ↔
      ∃ answer rest, exchanges = ⟨asked, answer⟩ :: rest ∧ Runs (next answer) rest value := by
  rw [runs_bind]
  constructor
  · rintro ⟨first, second, answer, rfl, ran, rest⟩
    rw [runs_request] at ran
    exact ⟨answer, second, by rw [ran]; rfl, rest⟩
  · rintro ⟨answer, rest, rfl, ran⟩
    exact ⟨[⟨asked, answer⟩], rest, answer, rfl, runs_request.mpr rfl, ran⟩

/-- **A run is decided by its exchanges.** No run of a program continues another one. -/
theorem Runs.unique {program : Program α} {first second : List Exchange} {one other : α}
    (ran : Runs program first one) (again : Runs program second other)
    {after later : List Exchange} (same : first ++ after = second ++ later) :
    first = second ∧ one = other := by
  induction ran generalizing second other with
  | done value =>
    cases again
    exact ⟨rfl, rfl⟩
  | ask asked next answer exchanges value _ ih =>
    cases again with
    | ask _ _ reply rest _ tail =>
      simp only [List.cons_append, List.cons.injEq, Exchange.mk.injEq, heq_eq_eq, true_and] at same
      obtain ⟨rfl, same⟩ := same
      obtain ⟨rfl, equal⟩ := ih tail same
      exact ⟨rfl, equal⟩

/-- The exchanges of a program with a host. -/
def transcript (host : Host σ) : Program α → σ → List Exchange
  | done _, _ => []
  | ask asked next, state =>
    let (answer, later) := host.answer asked state
    ⟨asked, answer⟩ :: (next answer).transcript host later

/-- **What happens on a host is a run**, so the laws of all runs hold on every machine. -/
theorem runs_transcript (host : Host σ) (program : Program α) (state : σ) :
    Runs program (program.transcript host state) (program.run host state).1 := by
  induction program generalizing state with
  | done value => exact .done value
  | ask asked next ih => exact .ask asked next _ _ _ (ih _ _)

end Runs

section Asks

/-- Whatever the answers are, the program makes no request that is not allowed. -/
def Asks (allowed : Request → Prop) : Program α → Prop
  | done _ => True
  | ask request next => allowed request ∧ ∀ answer, (next answer).Asks allowed

variable {allowed : Request → Prop}

theorem asks_pure (value : α) : Asks allowed (pure value : Program α) := trivial

theorem asks_request {asked : Request} (fine : allowed asked) : Asks allowed (request asked) :=
  ⟨fine, fun _ => trivial⟩

/-- A sequence asks for what its parts ask for. -/
theorem asks_bind {program : Program α} {next : α → Program β} (first : program.Asks allowed)
    (second : ∀ value, (next value).Asks allowed) : (program >>= next).Asks allowed := by
  induction program with
  | done value => exact second value
  | ask request rest ih => exact ⟨first.1, fun answer => ih answer (first.2 answer)⟩

theorem Asks.mono {wider : Request → Prop} {program : Program α} (asks : program.Asks allowed)
    (fine : ∀ request, allowed request → wider request) : program.Asks wider := by
  induction program with
  | done value => trivial
  | ask request next ih => exact ⟨fine _ asks.1, fun answer => ih answer (asks.2 answer)⟩

theorem Runs.asked {program : Program α} {exchanges : List Exchange} {value : α}
    (ran : Runs program exchanges value) (asks : program.Asks allowed) :
    ∀ exchange ∈ exchanges, allowed exchange.request := by
  induction ran with
  | done value => exact fun _ member => by cases member
  | ask request next answer exchanges value _ ih =>
    intro exchange member
    rcases List.mem_cons.mp member with rfl | member
    · exact asks.1
    · exact ih (asks.2 answer) exchange member

end Asks

end Program

open Program

section Requests

/-- The child that a request controls. -/
def Request.controlled? : Request → Option Nat
  | poll child | terminate child | kill child | wait child => some child
  | _ => none

/-- The request starts no process. -/
def Request.SpawnsNothing : Request → Prop
  | spawn .. => False
  | _ => True

/-- The request starts no process, lets no time pass and does not look for the operator's flag. -/
def Request.IsPrompt : Request → Prop
  | spawn .. | sleep _ | interrupted => False
  | _ => True

/-- The request does not control a process either. -/
def Request.IsIdle : Request → Prop
  | spawn .. | sleep _ | interrupted | poll _ | terminate _ | kill _ | wait _ => False
  | _ => True

/-- The request hands nothing to the observer. -/
def Request.IsSilent : Request → Prop
  | forward _ => False
  | _ => True

/-- The request is one of those that stop processes: it tells the operator something, lets time
pass, polls or signals. -/
def Request.IsStopping : Request → Prop
  | report _ | sleep _ | poll _ | terminate _ | kill _ => True
  | _ => False

/-- The request is one of those of sweeps that signal by the given means: it tells the operator
something, lets time pass, polls or signals so. -/
def Request.IsSweeping (means : Means) : Request → Prop
  | report _ | sleep _ | poll _ => True
  | terminate _ => means = .ask
  | kill _ => means = .force
  | _ => False

/-- The request is one of those of a single sweep, which may signal by one means or by none: it
tells the operator something, polls or signals so. -/
def Request.IsSweep (means? : Option Means) : Request → Prop
  | report _ | poll _ => True
  | terminate _ => means? = some .ask
  | kill _ => means? = some .force
  | _ => False

/-- The request tells the operator something. -/
def Request.IsReport : Request → Prop
  | report _ => True
  | _ => False

/-- The request is one of those that look after a log. -/
def Request.IsTailing : Request → Prop
  | report _ | readLog .. | forward _ | flushObserver => True
  | _ => False

/-- The request is one of those that watch processes: it looks after a log or polls. -/
def Request.IsWatching : Request → Prop
  | report _ | readLog .. | forward _ | flushObserver | poll _ => True
  | _ => False

/-- The request is one of those that supervise processes: it watches or stops them, or looks for the
operator's flag. -/
def Request.IsSupervising (request : Request) : Prop :=
  request.IsWatching ∨ request.IsStopping ∨ request = interrupted

/-- The request is one of those that prepare the files of a start. -/
def Request.IsPreparing : Request → Prop
  | report _ | createDirectory _ | writeFile .. | openLog _ => True
  | _ => False

/-- The request is one of those that stop processes which were started in vain. -/
def Request.IsDiscarding : Request → Prop
  | report _ | kill _ | wait _ => True
  | _ => False

/-- The request is one of those that a start makes: it prepares, spawns or discards. -/
def Request.IsStarting (request : Request) : Prop :=
  request.IsPreparing ∨ request.IsDiscarding ∨ ¬request.SpawnsNothing

theorem Request.IsReport.idle {request : Request} (reports : request.IsReport) :
    request.IsIdle := by
  cases request <;> first | exact reports.elim | trivial

theorem Request.IsReport.preparing {request : Request} (reports : request.IsReport) :
    request.IsPreparing := by
  cases request <;> first | exact reports.elim | trivial

theorem Request.IsTailing.idle {request : Request} (tailing : request.IsTailing) :
    request.IsIdle := by
  cases request <;> first | exact tailing.elim | trivial

theorem Request.IsTailing.watching {request : Request} (tailing : request.IsTailing) :
    request.IsWatching := by
  cases request <;> first | exact tailing.elim | trivial

theorem Request.IsWatching.prompt {request : Request} (watching : request.IsWatching) :
    request.IsPrompt := by
  cases request <;> first | exact watching.elim | trivial

theorem Request.IsPreparing.idle {request : Request} (preparing : request.IsPreparing) :
    request.IsIdle := by
  cases request <;> first | exact preparing.elim | trivial

theorem Request.IsDiscarding.spawnsNothing {request : Request} (discarding : request.IsDiscarding) :
    request.SpawnsNothing := by
  cases request <;> first | exact discarding.elim | trivial

theorem Request.IsStarting.silent {request : Request} (starting : request.IsStarting) :
    request.IsSilent := by
  cases request <;>
    first | trivial | exact starting.elim id fun others => others.elim id fun none => none trivial

theorem Request.IsSweep.prompt {means? : Option Means} {request : Request}
    (sweeps : request.IsSweep means?) : request.IsPrompt := by
  cases request <;> first | exact sweeps.elim | trivial

theorem Request.IsSweep.sweeping {means? : Option Means} {means : Means} {request : Request}
    (sweeps : request.IsSweep means?) (fine : ∀ other, means? = some other → other = means) :
    request.IsSweeping means := by
  cases request <;> first | exact sweeps.elim | trivial | exact (fine _ sweeps).symm

theorem Request.IsSweeping.stopping {means : Means} {request : Request}
    (sweeping : request.IsSweeping means) : request.IsStopping := by
  cases request <;> first | exact sweeping.elim | trivial

theorem Request.IsStopping.silent {request : Request} (stopping : request.IsStopping) :
    request.IsSilent := by
  cases request <;> first | exact stopping.elim | trivial

theorem Request.IsStopping.spawnsNothing {request : Request} (stopping : request.IsStopping) :
    request.SpawnsNothing := by
  cases request <;> first | exact stopping.elim | trivial

theorem Request.IsPrompt.spawnsNothing {request : Request} (prompt : request.IsPrompt) :
    request.SpawnsNothing := by
  cases request <;> first | exact prompt.elim | trivial

theorem Request.IsIdle.prompt {request : Request} (idle : request.IsIdle) : request.IsPrompt := by
  cases request <;> first | exact idle.elim | trivial

theorem Request.IsSupervising.spawnsNothing {request : Request}
    (supervising : request.IsSupervising) : request.SpawnsNothing := by
  rcases supervising with watching | stopping | rfl
  · exact watching.prompt.spawnsNothing
  · exact stopping.spawnsNothing
  · trivial

end Requests

section Views

/-- The process control among exchanges. -/
def calls (exchanges : List Exchange) : List Exchange :=
  exchanges.filter fun exchange => exchange.request.controlled?.isSome

/-- How long an exchange has the launcher sleep. -/
def pause? : Exchange → Option Nat
  | ⟨.sleep milliseconds, _⟩ => some milliseconds
  | _ => none

/-- The sleeps among exchanges. -/
def pauses (exchanges : List Exchange) : List Nat := exchanges.filterMap pause?

/-- The child that an exchange has started. -/
def spawned? : Exchange → Option Nat
  | ⟨.spawn child _ _ _, .ok _⟩ => some child
  | _ => none

/-- The children that were started. -/
def spawned (exchanges : List Exchange) : List Nat := exchanges.filterMap spawned?

/-- The child that an exchange is to start, whether that succeeds or not. -/
def attempted? : Exchange → Option Nat
  | ⟨.spawn child _ _ _, _⟩ => some child
  | _ => none

/-- The children that were to be started. -/
def attempts (exchanges : List Exchange) : List Nat := exchanges.filterMap attempted?

/-- What a poll was answered with. -/
def polled? : Exchange → Option (Except IoError (Option Int))
  | ⟨.poll _, answer⟩ => some answer
  | _ => none

/-- The answers to the polls among exchanges. -/
def polls (exchanges : List Exchange) : List (Except IoError (Option Int)) :=
  exchanges.filterMap polled?

variable {first second : List Exchange}

@[simp] theorem calls_nil : calls [] = [] := rfl

@[simp] theorem calls_append : calls (first ++ second) = calls first ++ calls second :=
  List.filter_append ..

@[simp] theorem pauses_append : pauses (first ++ second) = pauses first ++ pauses second :=
  List.filterMap_append

@[simp] theorem spawned_append : spawned (first ++ second) = spawned first ++ spawned second :=
  List.filterMap_append

@[simp] theorem attempts_append : attempts (first ++ second) = attempts first ++ attempts second :=
  List.filterMap_append

theorem mem_spawned {exchanges : List Exchange} {child pid : Nat} {command : Command}
    {environment : Environment} {output : Output}
    (member : ⟨.spawn child command environment output, .ok pid⟩ ∈ exchanges) :
    child ∈ spawned exchanges :=
  List.mem_filterMap.mpr ⟨_, member, rfl⟩

/-- Whoever looks at nothing but process control sees all of it there. -/
theorem filterMap_calls {view : Exchange → Option α}
    (blind : ∀ exchange, exchange.request.controlled? = none → view exchange = none)
    (exchanges : List Exchange) : (calls exchanges).filterMap view = exchanges.filterMap view := by
  rw [calls, List.filterMap_filter]
  refine congrArg (List.filterMap · exchanges) (funext fun exchange => ?_)
  cases controlled : exchange.request.controlled? with
  | none => simp [blind exchange controlled]
  | some child => simp

end Views

section Prompt

variable {exchanges : List Exchange}

/-- Exchanges that start nothing and let no time pass. -/
def Prompt (exchanges : List Exchange) : Prop :=
  ∀ exchange ∈ exchanges, exchange.request.IsPrompt

theorem Prompt.pauses (prompt : Prompt exchanges) : pauses exchanges = [] := by
  refine List.filterMap_eq_nil_iff.mpr ?_
  rintro ⟨request, answer⟩ member
  have fine := prompt _ member
  cases request <;> first | exact fine.elim | rfl

theorem spawned_eq_nil (nothing : ∀ exchange ∈ exchanges, exchange.request.SpawnsNothing) :
    spawned exchanges = [] := by
  refine List.filterMap_eq_nil_iff.mpr ?_
  rintro ⟨request, answer⟩ member
  have fine := nothing _ member
  cases request <;> first | exact fine.elim | rfl

theorem attempts_eq_nil (nothing : ∀ exchange ∈ exchanges, exchange.request.SpawnsNothing) :
    attempts exchanges = [] := by
  refine List.filterMap_eq_nil_iff.mpr ?_
  rintro ⟨request, answer⟩ member
  have fine := nothing _ member
  cases request <;> first | exact fine.elim | rfl

/-- Exchanges that have nothing to do with processes, with the clock or with the flag. -/
def Idle (exchanges : List Exchange) : Prop := ∀ exchange ∈ exchanges, exchange.request.IsIdle

theorem Idle.calls (idle : Idle exchanges) : calls exchanges = [] := by
  refine List.filter_eq_nil_iff.mpr ?_
  rintro ⟨request, answer⟩ member
  have fine := idle _ member
  cases request <;> first | exact fine.elim | exact Bool.false_ne_true

theorem Idle.spawned (idle : Idle exchanges) : spawned exchanges = [] :=
  spawned_eq_nil fun exchange member => (idle exchange member).prompt.spawnsNothing

theorem Idle.attempts (idle : Idle exchanges) : attempts exchanges = [] :=
  attempts_eq_nil fun exchange member => (idle exchange member).prompt.spawnsNothing

theorem idle_nil : Idle [] := fun _ member => by cases member

theorem Idle.append {first second : List Exchange} (one : Idle first) (other : Idle second) :
    Idle (first ++ second) := fun exchange member =>
  (List.mem_append.mp member).elim (one exchange) (other exchange)

/-- The operator is told something, and nothing else happens. -/
def Reports (exchanges : List Exchange) : Prop := ∀ exchange ∈ exchanges, exchange.request.IsReport

theorem Reports.idle (reports : Reports exchanges) : Idle exchanges :=
  fun exchange member => (reports exchange member).idle

theorem reports_nil : Reports [] := fun _ member => by cases member

theorem report_asks {allowed : Request → Prop} (severity : Severity) (text : String)
    (fine : allowed (.report ⟨severity, text⟩)) :
    (Program.report severity text).Asks allowed :=
  asks_request fine

end Prompt

end TrainingLauncher
