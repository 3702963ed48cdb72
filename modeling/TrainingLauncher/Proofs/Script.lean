/-
Processes that follow a script, seen from their answers.

* `Plays child process exchanges`: in the exchanges the child answers as the process does.
* `OfAge.poll`: what a poll finds, by the number of polls before it.
* `Stage.plays`: on the rehearsal's machine every child plays its process.
-/

import TrainingLauncher.Proofs.Survey
import TrainingLauncher.Rehearsal.Stage
import Mathlib

namespace TrainingLauncher.Rehearsal

open Program Supervision

section Plays

/-- A child answers as a scripted process does. What is asked of the machine otherwise is no concern
of its. -/
inductive Plays (child : Nat) : ScriptedProcess → List Exchange → Prop
  | nil (process : ScriptedProcess) : Plays child process []
  | other {process : ScriptedProcess} {exchange : Exchange} {rest : List Exchange}
      (elsewhere : exchange.request.controlled? ≠ some child) (plays : Plays child process rest) :
      Plays child process (exchange :: rest)
  | poll {process : ScriptedProcess} {rest : List Exchange}
      (plays : Plays child process.poll.2 rest) :
      Plays child process (⟨.poll child, process.poll.1⟩ :: rest)
  | terminate {process : ScriptedProcess} {rest : List Exchange}
      (plays : Plays child process.terminate.2 rest) :
      Plays child process (⟨.terminate child, process.terminate.1⟩ :: rest)
  | kill {process : ScriptedProcess} {rest : List Exchange}
      (plays : Plays child process.kill.2 rest) :
      Plays child process (⟨.kill child, process.kill.1⟩ :: rest)
  | wait {process : ScriptedProcess} {rest : List Exchange}
      (plays : Plays child process.wait.2 rest) :
      Plays child process (⟨.wait child, process.wait.1⟩ :: rest)

variable {child : Nat} {process : ScriptedProcess} {exchanges rest : List Exchange}

/-- Only process control matters. -/
theorem Plays.calls (plays : Plays child process exchanges) :
    Plays child process (calls exchanges) := by
  induction plays with
  | nil process => exact .nil process
  | @other process exchange rest elsewhere _ ih =>
    unfold TrainingLauncher.calls at ih ⊢
    rw [List.filter_cons]
    split
    · exact .other elsewhere ih
    · exact ih
  | poll _ ih => exact .poll ih
  | terminate _ ih => exact .terminate ih
  | kill _ ih => exact .kill ih
  | wait _ ih => exact .wait ih

theorem Plays.of_poll {answer : Except IoError (Option Int)}
    (plays : Plays child process (⟨.poll child, answer⟩ :: rest)) :
    answer = process.poll.1 ∧ Plays child process.poll.2 rest := by
  cases plays with
  | other elsewhere plays => exact (elsewhere rfl).elim
  | poll plays => exact ⟨rfl, plays⟩

theorem Plays.of_other {exchange : Exchange} (plays : Plays child process (exchange :: rest))
    (elsewhere : exchange.request.controlled? ≠ some child) : Plays child process rest := by
  cases plays with
  | other _ plays => exact plays
  | poll | terminate | kill | wait => exact (elsewhere rfl).elim

/-- Polls of others pass a child by. -/
theorem Plays.of_polling {children : List Nat} {answers : List (Except IoError (Option Int))}
    (absent : child ∉ children)
    (plays : Plays child process (polling children answers ++ rest)) :
    Plays child process rest := by
  induction children generalizing answers with
  | nil => exact plays
  | cons first others ih =>
    rw [List.mem_cons, not_or] at absent
    cases answers with
    | nil => exact plays
    | cons answer answers =>
      refine ih absent.2 (Plays.of_other plays fun same => absent.1 ?_)
      exact (Option.some.inj same).symm

/-- When distinct children are polled in order, each of those that were reached has answered as its
process does. -/
theorem Plays.polled {children : List Nat} {answers : List (Except IoError (Option Int))}
    {slot : Nat} (distinct : children.Nodup) (here : children[slot]? = some child)
    (reached : slot < answers.length)
    (plays : Plays child process (polling children answers ++ rest)) :
    answers[slot]? = some process.poll.1 ∧ Plays child process.poll.2 rest := by
  induction children generalizing answers slot with
  | nil => cases here
  | cons first others ih =>
    obtain ⟨absent, distinct⟩ := List.nodup_cons.mp distinct
    cases answers with
    | nil => cases reached
    | cons answer answers =>
      cases slot with
      | zero =>
        obtain rfl := Option.some.inj here
        obtain ⟨rfl, resumed⟩ := Plays.of_poll plays
        exact ⟨rfl, resumed.of_polling absent⟩
      | succ slot =>
        rw [List.getElem?_cons_succ] at here ⊢
        have elsewhere : first ≠ child := fun same => absent (same ▸ List.mem_of_getElem? here)
        have resumed := Plays.of_other plays fun same => elsewhere (Option.some.inj same)
        exact ih distinct here (Nat.lt_of_succ_lt_succ reached) resumed

end Plays

section Age

/-- How many polls find the process running before it ends by itself. -/
def Behavior.lasts (behavior : Behavior) : ℕ∞ :=
  match behavior.runsFor with
  | some limit => limit
  | none => ⊤

/-- What a poll finds after so many others. -/
def Behavior.status (behavior : Behavior) (count : Nat) : Option Int :=
  if behavior.lasts ≤ count then some behavior.exitCode else none

/-- A process that has been polled so many times, and nothing else. -/
structure OfAge (behavior : Behavior) (count : Nat) (process : ScriptedProcess) : Prop where
  script : process.behavior = behavior
  polls : count ≤ behavior.lasts → process.polls = count
  exited : process.exited = if behavior.lasts < count then some behavior.exitCode else none

theorem OfAge.start (pid : Nat) (behavior : Behavior) (command : Command)
    (environment : Environment) :
    OfAge behavior 0 (.start pid behavior command environment) where
  script := rfl
  polls _ := rfl
  exited := by simp [ScriptedProcess.start]

/-- A poll that reaches a process makes it one poll older. -/
theorem OfAge.observe {behavior : Behavior} {count : Nat} {process : ScriptedProcess}
    (aged : OfAge behavior count process) : OfAge behavior (count + 1) process.observe := by
  obtain ⟨rfl, polls, exited⟩ := aged
  by_cases ended : process.behavior.lasts < count
  · have late : process.behavior.lasts < (count + 1 : ℕ) :=
      ended.trans (Nat.cast_lt.mpr (Nat.lt_succ_self count))
    rw [if_pos ended] at exited
    have same : process.observe = process := by rw [ScriptedProcess.observe, exited]
    rw [same]
    exact ⟨rfl, fun early => absurd late early.not_gt, by rw [exited, if_pos late]⟩
  · have reached := polls (not_lt.mp ended)
    rw [if_neg ended] at exited
    cases script : process.behavior.runsFor with
    | none =>
      have endless : process.behavior.lasts = ⊤ := by rw [Behavior.lasts, script]
      have same : process.observe = { process with polls := process.polls + 1 } := by
        rw [ScriptedProcess.observe, exited, script]
      rw [same]
      exact ⟨rfl, fun _ => congrArg (· + 1) reached, by simp [exited, endless]⟩
    | some limit =>
      have lasts : process.behavior.lasts = limit := by rw [Behavior.lasts, script]
      have same : process.observe =
          if process.polls ≥ limit then { process with exited := some process.behavior.exitCode }
          else { process with polls := process.polls + 1 } := by
        rw [ScriptedProcess.observe, exited, script]
      rw [same, reached]
      rw [lasts, Nat.cast_lt] at ended
      by_cases due : limit ≤ count
      · rw [if_pos due]
        refine ⟨rfl, fun early => ?_, ?_⟩
        · rw [lasts, Nat.cast_le] at early
          omega
        · rw [lasts, if_pos (Nat.cast_lt.mpr (Nat.lt_succ_of_le due))]
      · rw [if_neg due]
        refine ⟨rfl, fun _ => rfl, ?_⟩
        rw [lasts, if_neg (by rw [Nat.cast_lt]; omega)]
        exact exited

/-- **What the polls of a process find**, when none of them fails: it runs for as many of them as
its script says, and has ended for all later ones. -/
theorem OfAge.poll {behavior : Behavior} {count : Nat} {process : ScriptedProcess}
    (aged : OfAge behavior count process) (reliable : behavior.pollErrors = []) :
    process.poll.1 = .ok (behavior.status count) ∧ OfAge behavior (count + 1) process.poll.2 := by
  let asked : ScriptedProcess := { process with pollsAsked := process.pollsAsked + 1 }
  have observed : OfAge behavior (count + 1) asked.observe :=
    OfAge.observe ⟨aged.script, aged.polls, aged.exited⟩
  have reached : process.poll = (.ok asked.observe.exited, asked.observe) := by
    simp [ScriptedProcess.poll, aged.script, reliable, asked]
  rw [reached]
  exact ⟨by rw [observed.exited, Behavior.status]; simp [ENat.lt_add_one_iff], observed⟩

/-- A process that runs for some polls and then ends by itself, and heeds every signal. -/
def Behavior.plain (runsFor : Option Nat) (exitCode : Int) : Behavior where
  runsFor := runsFor
  exitCode := exitCode
  stopsOnTerminate := true
  stopsOnKill := true
  output := .empty
  spawnError := none
  pollErrors := []
  terminateError := none
  killError := none

end Age

namespace Stage

variable {child : Nat} {process : ScriptedProcess} {stage : Stage}

/-- The machine has a process for the child, and nothing is to happen on it by itself. -/
structure Has (stage : Stage) (child : Nat) (process : ScriptedProcess) : Prop where
  calm : stage.cues = []
  here : stage.processes[child]? = some process

theorem Has.ask (has : stage.Has child process)
    (request : ScriptedProcess → Except IoError α × ScriptedProcess) :
    (stage.ask child request).1 = (request process).1 ∧
      (stage.ask child request).2.Has child (request process).2 := by
  have asked : stage.ask child request =
      ((request process).1, stage.updateProcess child fun _ => (request process).2) := by
    rw [Stage.ask, has.here]
  rw [asked]
  exact ⟨rfl, has.calm, by simp [updateProcess, Array.getElem?_modify, has.here]⟩

theorem Has.ask_other (has : stage.Has child process) {other : Nat} (elsewhere : other ≠ child)
    (request : ScriptedProcess → Except IoError α × ScriptedProcess) :
    (stage.ask other request).2.Has child process := by
  rw [Stage.ask]
  split
  · exact has
  · exact ⟨has.calm, by simp [updateProcess, Array.getElem?_modify, elsewhere, has.here]⟩

theorem Has.sleep (has : stage.Has child process) (milliseconds : Nat) :
    (stage.sleep milliseconds).Has child process := by
  rw [Stage.sleep, has.calm]
  exact ⟨rfl, has.here⟩

/-- A new process changes nothing about those that are there. -/
theorem Has.spawn (has : stage.Has child process) (command : Command) (environment : Environment)
    (output : Output) : (stage.spawn command environment output).2.Has child process := by
  obtain ⟨bound, -⟩ := Array.getElem?_eq_some_iff.mp has.here
  have pushed (process' : ScriptedProcess) :
      (stage.processes.push process')[child]? = some process := by
    rw [Array.getElem?_push, if_neg bound.ne, has.here]
  rw [Stage.spawn]
  dsimp only
  split
  · exact ⟨has.calm, has.here⟩
  · split
    · exact ⟨has.calm, pushed _⟩
    · exact ⟨has.calm, pushed _⟩

theorem Has.change (has : stage.Has child process) (changed : Except IoError FileTree) :
    (stage.change changed).2.Has child process := by
  cases changed <;> exact ⟨has.calm, has.here⟩

/-- Whatever is not process control leaves the processes as they are. -/
theorem Has.answer_other (has : stage.Has child process) (request : Request)
    (uncontrolled : request.controlled? = none) :
    (Stage.answer request stage).2.Has child process := by
  cases request with
  | poll | terminate | kill | wait => cases uncontrolled
  | sleep milliseconds => exact has.sleep milliseconds
  | spawn _ command environment output => exact has.spawn command environment output
  | writeFile path content => exact has.change _
  | openLog | forward | flushObserver | removeRendezvous =>
    rw [Stage.answer]
    split <;> exact ⟨has.calm, has.here⟩
  | _ => exact ⟨has.calm, has.here⟩

/-- One request to the machine, as the child takes it. -/
theorem Has.answer (has : stage.Has child process) (request : Request) :
    ∃ later, (Stage.answer request stage).2.Has child later ∧
      ∀ rest, Plays child later rest →
        Plays child process (⟨request, (Stage.answer request stage).1⟩ :: rest) := by
  by_cases mine : request.controlled? = some child
  · cases request with
    | poll other =>
      obtain rfl := Option.some.inj mine
      obtain ⟨same, asked⟩ := has.ask ScriptedProcess.poll
      exact ⟨_, asked, fun rest plays => by rw [Stage.answer, same]; exact .poll plays⟩
    | terminate other =>
      obtain rfl := Option.some.inj mine
      obtain ⟨same, asked⟩ := has.ask ScriptedProcess.terminate
      exact ⟨_, asked, fun rest plays => by rw [Stage.answer, same]; exact .terminate plays⟩
    | kill other =>
      obtain rfl := Option.some.inj mine
      obtain ⟨same, asked⟩ := has.ask ScriptedProcess.kill
      exact ⟨_, asked, fun rest plays => by rw [Stage.answer, same]; exact .kill plays⟩
    | wait other =>
      obtain rfl := Option.some.inj mine
      obtain ⟨same, asked⟩ := has.ask ScriptedProcess.wait
      exact ⟨_, asked, fun rest plays => by rw [Stage.answer, same]; exact .wait plays⟩
    | _ => cases mine
  · refine ⟨process, ?_, fun rest plays => .other mine plays⟩
    cases request with
    | poll other | terminate other | kill other | wait other =>
      exact has.ask_other (fun same => mine (congrArg some same)) _
    | _ => exact has.answer_other _ rfl

/-- **On the rehearsal's machine every child plays its process.** -/
theorem plays (program : Program α) (has : stage.Has child process) :
    Plays child process (program.transcript host stage) := by
  induction program generalizing stage process with
  | done value => exact .nil process
  | ask request next ih =>
    obtain ⟨later, has, extend⟩ := has.answer request
    exact extend _ (ih _ has)

/-- A machine on which processes have just started, the first of them as the first child. -/
def opening (behaviors : List Behavior) : Stage :=
  { Stage.initial .empty [] (.plain none 0) with
    processes := (behaviors.zipIdx.map fun (behavior, child) =>
      .start (firstPid + child) behavior ⟨"train", []⟩ ∅).toArray }

/-- The child of a number on that machine, as a trainer of the same rank. -/
def trainer (child : Nat) : Handle where
  child := child
  pid := firstPid + child
  role := .trainer
  rank := child
  slot := child
  logPath := none
  logOpen := false
  logOffset := 0

end Stage

end TrainingLauncher.Rehearsal
