/-
What a shell keeps while it carries out scripts, and the monad in which it does so: a state over an
activity, which may be left. The children of shells and of other programs have the tasks of
`Task`.
-/

import TrainingLauncher.Rehearsal.Process.Activity
import TrainingLauncher.Rehearsal.Shell.Script
import TrainingLauncher.Text.Fields
import TrainingLauncher.Text.Octets

namespace TrainingLauncher.Rehearsal

namespace Shell

/-- A variable. One without a value may still be one that programs are to inherit. -/
structure Variable where
  name : String
  value : Option String
  isExported : Bool
  isReadonly : Bool

/-- What a shell has been told to do differently. -/
structure Options where
  /-- A command that fails ends the shell. -/
  careful : Bool
  /-- A parameter without a value ends the shell. -/
  strict : Bool
  /-- Commands are shown before they are carried out. -/
  traced : Bool
  /-- Patterns do not stand for the names of files. -/
  literal : Bool
  /-- Commands are only read. -/
  idle : Bool
  /-- Files that exist are not replaced. -/
  cautious : Bool
  /-- Programs inherit every variable that is set. -/
  exporting : Bool
  /-- Lines are shown as they are read. -/
  echoing : Bool

/-- Processes that were started together, with how they ended. -/
structure Job where
  number : Nat
  members : List (Nat × Option Ending)

/-- The state of a shell. -/
structure State where
  /-- How the shell calls itself. -/
  name : String
  arguments : List String
  bindings : List Variable
  functions : List (String × Script)
  options : Options
  /-- The status of the latest command. -/
  status : Nat
  line : Nat
  /-- The command whose work the shell does itself. -/
  command : Option String
  pid : Nat
  parent : Nat
  /-- The latest process that the shell did not wait for. -/
  beside : Option Nat
  jobs : List Job
  /-- What is done when signals come; at the number zero stands what is done at the end. -/
  traps : List (Nat × String)
  /-- Signals that the shell was told to ignore before it began. -/
  ignored : List Signal
  /-- Signals that have come and are to be attended to. -/
  arrived : List Signal
  /-- One of them has come since the shell has last turned to them. -/
  isCalled : Bool
  /-- The status before a trap, while one is carried out. -/
  statusBefore : Option Nat
  /-- The directory that the shell takes itself to be in. -/
  directory : String
  /-- How many loops are around a command. -/
  loops : Nat
  /-- The variables that functions have made their own, as they were before. -/
  shadowed : List (List (String × Option Variable))
  /-- The status of the latest script inside of a word. -/
  substituted : Nat
  /-- How far into a word options have been read. -/
  optionPlace : Nat
  /-- What others may not do with the files that are created. -/
  mask : Nat

/-- What a descriptor of a child stands for from its start on. -/
inductive Wire where
  | closed (descriptor : Nat)
  | moved (source target : Nat)
  /-- There is nothing to read. -/
  | empty (descriptor : Nat)

/-- How a shell of its own begins. -/
structure Start where
  wires : List Wire
  /-- Its status is looked at. -/
  tested : Bool
  /-- It is not waited for. -/
  isBeside : Bool

/-- A command that is to be run: the paths where it may be, and what is said if it cannot be run. -/
structure Launch where
  paths : List String
  words : List String
  environment : List String
  complaint : IoError → String

/-- Why a shell does not go on with the commands that follow. -/
inductive Departure where
  /-- It ends. -/
  | shell (status : Nat)
  /-- It leaves a function. -/
  | function (status : Nat)
  /-- It leaves loops, and may go on with the outermost of them. -/
  | loop (count : Nat) (again : Bool)
  /-- A command could not be understood. -/
  | failure

end Shell

/-- What a process is to do. -/
inductive Task where
  /-- A program is run. -/
  | program (name : String) (words environment : List String)
  /-- A shell carries out a script like one in its state would. -/
  | script (state : Shell.State) (script : Shell.Script) (start : Shell.Start)
  /-- A program is looked for and run. -/
  | launch (launch : Shell.Launch)

namespace Shell

/-- What a shell does: it makes calls, has a state, and may depart. -/
abbrev Conduct := ExceptT Departure (StateT State (Activity Task))

/-- Makes a call. -/
def ask (call : Call Task) : Conduct call.Answer := liftM (Activity.call call)

section Complaints

/-- Writes to a descriptor. -/
def writeTo (descriptor : Nat) (text : String) : Conduct Unit := do
  let _ ← ask (.write descriptor (Text.ofOctets text))

/-- How a complaint of a shell begins. -/
def State.complaintStart (state : State) : String :=
  let command :=
    match state.command with
    | some name => name ++ ": "
    | none => ""
  state.name ++ ": " ++ toString state.line ++ ": " ++ command

/-- Says what is wrong. -/
def complain (text : String) : Conduct Unit := do
  writeTo 2 ((← get).complaintStart ++ text ++ "\n")

/-- The status of commands that were used wrongly. -/
def misuse : Nat := 2

/-- Says what is wrong, and does not go on. -/
def refuse (text : String) : Conduct α := do
  complain text
  modify ({ · with status := misuse })
  throw .failure

end Complaints

section Variables

namespace State

/-- A variable, if there is one of a name. -/
def findVariable? (state : State) (name : String) : Option Variable :=
  state.bindings.find? (·.name == name)

/-- The value of a variable. -/
def value? (state : State) (name : String) : Option String :=
  (state.findVariable? name).bind (·.value)

/-- The state with a variable in place of the one of its name. -/
def put (state : State) (entry : Variable) : State :=
  if (state.findVariable? entry.name).isSome then
    { state with bindings := state.bindings.map fun other =>
        if other.name == entry.name then entry else other }
  else { state with bindings := state.bindings ++ [entry] }

/-- The state without a variable. -/
def drop (state : State) (name : String) : State :=
  { state with bindings := state.bindings.filter (·.name != name) }

/-- The state with the value of a variable, which programs inherit if they did before. -/
def assign (state : State) (name value : String) (exported : Bool) : State :=
  let before := state.findVariable? name
  state.put {
    name, value := some value
    isExported := exported || state.options.exporting || before.any (·.isExported)
    isReadonly := before.any (·.isReadonly) }

/-- The drawers in which the variables are kept. -/
def drawers : Nat := 39

/-- The drawer of a variable. -/
def drawerOf (name : String) : Nat :=
  let chars := name.toList.map Char.toNat
  (16 * chars.headD 0 + chars.foldl (· + ·) 0) % drawers

/-- The variables that programs inherit, drawer by drawer. -/
def environment (state : State) : List String :=
  (List.range drawers).flatMap fun drawer =>
    state.bindings.filterMap fun entry =>
      if entry.isExported && drawerOf entry.name = drawer then
        entry.value.map fun value => entry.name ++ "=" ++ value
      else none

end State

/-- Sets a variable. -/
def assign (name value : String) (exported : Bool) : Conduct Unit := do
  if ((← get).findVariable? name).any (·.isReadonly) then refuse (name ++ ": is read only")
  modify fun state =>
    let state := if name = "OPTIND" then { state with optionPlace := 0 } else state
    state.assign name value exported

/-- The characters that separate the words of a value. -/
def separators : Conduct String := return ((← get).value? "IFS").getD " \t\n"

end Variables

section Jobs

/-- The status of a job: that of its last process. -/
def Job.status (job : Job) : Nat :=
  match job.members.getLast? with
  | some (_, some ending) => ending.status
  | _ => 0

/-- Every process of a job has ended. -/
def Job.isOver (job : Job) : Bool := job.members.all (·.2.isSome)

/-- The job once a process has ended. -/
def Job.ended (job : Job) (pid : Nat) (ending : Ending) : Job :=
  { job with members := job.members.map fun member =>
      if member.1 = pid then (pid, some ending) else member }

/-- Tells that a signal has ended a process, unless it is one that is often sent on purpose. -/
def announce (ending : Ending) : Conduct Unit := do
  match ending with
  | .exited _ => return
  | .killed signal =>
    if signal != Signal.interrupt && signal != Signal.brokenPipe then
      writeTo 2 (signal.words ++ "\n")

/-- How long things are repeated at most. -/
def endless : Nat := 1000000000

/-- Waits for the processes of a job, at most `bound` endings of processes long. -/
def awaitJob : (bound : Nat) → Job → Conduct Nat
  | 0, job => return job.status
  | bound + 1, job => do
    if job.isOver then return job.status
    match ← ask (.wait .steadily) with
    | .ended pid ending =>
      if job.members.any (·.1 == pid) then
        announce ending
        awaitJob bound (job.ended pid ending)
      else
        modify fun state => { state with jobs := state.jobs.map (·.ended pid ending) }
        awaitJob bound job
    | _ => return job.status

/-- Waits for a process. -/
def awaitProcess (pid : Nat) : Conduct Nat := awaitJob endless ⟨0, [(pid, none)]⟩

end Jobs

end Shell

end TrainingLauncher.Rehearsal
