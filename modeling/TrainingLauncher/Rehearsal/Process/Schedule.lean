/-
When processes do what they do. Each has a share of a round; rounds follow each other until nobody
can do anything more, or until as much has been done as a moment holds. Then time passes: to the
next process that wakes, or to the next moment if somebody is still busy.
-/

import TrainingLauncher.Rehearsal.Process.Kernel

namespace TrainingLauncher.Rehearsal.Kernel

section Moments

/-- How many things a process does before others have their turn. -/
def share : Nat := 32

/-- How many rounds fit into a moment. -/
def roundsInMoment : Nat := 20

/-- Lets a process do at most `bound` things; the answer tells whether it did any. -/
def turn (system : System τ) (pid : Nat) : (bound : Nat) → Kernel τ × Bool → Kernel τ × Bool
  | 0, outcome => outcome
  | bound + 1, (kernel, active) =>
    match kernel.step system pid with
    | (kernel, true) => turn system pid bound (kernel, true)
    | (kernel, false) => (kernel, active)

/-- Lets every process have its turn; the answer tells whether one did anything. -/
def round (system : System τ) (kernel : Kernel τ) : Kernel τ × Bool :=
  kernel.processes.keys.foldl (fun (kernel, active) pid =>
    let (kernel, acted) := turn system pid share (kernel, false)
    (kernel, active || acted)) (kernel, false)

/-- Lets processes do what they can at this moment, in at most `bound` rounds; the answer tells
whether they were still busy at the end. -/
def settle (system : System τ) : (bound : Nat) → Kernel τ → Kernel τ × Bool
  | 0, kernel => (kernel, true)
  | bound + 1, kernel =>
    match kernel.round system with
    | (kernel, true) => settle system bound kernel
    | (kernel, false) => (kernel, false)

end Moments

section Time

/-- When the next process wakes. -/
def nextWake? (kernel : Kernel τ) : Option Nat :=
  (kernel.processes.values.filterMap fun process =>
    if process.stopped then none else process.wakes).min?

/-- The time at which something can happen next, no earlier than the next moment. -/
def nextMoment? (kernel : Kernel τ) (busy : Bool) : Option Nat :=
  if busy then some (kernel.clock + 1)
  else kernel.nextWake?.map fun wake => max wake (kernel.clock + 1)

/-- Lets time pass up to a target, over at most `bound` moments. -/
def passOver (system : System τ) (target : Nat) : (bound : Nat) → Kernel τ → Kernel τ
  | 0, kernel => kernel
  | bound + 1, kernel =>
    let (kernel, busy) := kernel.settle system roundsInMoment
    if target ≤ kernel.clock then kernel
    else
      let next := (kernel.nextMoment? busy).getD target
      passOver system target bound { kernel with clock := min next target }

/-- Lets an amount of time pass. -/
def pass (system : System τ) (kernel : Kernel τ) (milliseconds : Nat) : Kernel τ :=
  kernel.passOver system (kernel.clock + milliseconds) (milliseconds + 1)

/-- How a process has ended. -/
def ending? (kernel : Kernel τ) (pid : Nat) : Option Ending :=
  (kernel.processes[pid]?).bind (·.ending)

/-- Lets time pass until a process has ended, over at most `bound` moments. -/
def passUntilEnded (system : System τ) (pid : Nat) : (bound : Nat) → Kernel τ → Kernel τ
  | 0, kernel => kernel
  | bound + 1, kernel =>
    let (kernel, busy) := kernel.settle system roundsInMoment
    if (kernel.ending? pid).isSome then kernel
    else
      match kernel.nextMoment? busy with
      | none => kernel
      | some next => passUntilEnded system pid bound { kernel with clock := next }

end Time

end TrainingLauncher.Rehearsal.Kernel
