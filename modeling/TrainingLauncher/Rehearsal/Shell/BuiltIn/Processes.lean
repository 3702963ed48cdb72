/-
The commands of a shell about signals and processes: sending signals, arranging what happens when
they come, and waiting for the processes that the shell did not wait for.
-/

import TrainingLauncher.Rehearsal.Shell.BuiltIn

namespace TrainingLauncher.Rehearsal.Shell

section Signals

/-- How the end of a shell is called among the signals. -/
def endName : String := "EXIT"

/-- The number of a signal, given by its number or its name; the end of a shell counts as zero. -/
def signalNumber? (word : String) : Option Nat :=
  match Tool.natural? word with
  | some number => if number ≤ Signal.last then some number else none
  | none =>
    if String.ofList (word.toList.map Char.toUpper) = endName then some 0
    else (Signal.ofName? word).map (·.number)

/-- The name of a signal, or of the end of a shell. -/
def signalName (number : Nat) : String := if number = 0 then endName else (⟨number⟩ : Signal).name

/-- How signals are sent. -/
def killUsage : String :=
  "Usage: kill [-s sigspec | -signum | -sigspec] [pid | job]... or\nkill -l [exitstatus]"

/-- Finds the job that a word stands for. -/
def jobOf (word : String) : Conduct Job := do
  let jobs := (← get).jobs
  let name := String.ofList (word.toList.drop 1)
  let found? :=
    match Tool.natural? name with
    | some number => jobs.find? (·.number == number)
    | none => if ["", "%", "+"].contains name then jobs.getLast? else none
  match found? with
  | some job => return job
  | none => refuse ("No such job: " ++ word)

/-- Sends a signal to processes. -/
def sendAll (signal : Signal) (status : Nat) : List String → Conduct Report
  | [] => return .silent status
  | word :: rest => do
    let sent ←
      if word.startsWith "%" then do
        let _ ← jobOf word
        pure false
      else if word.startsWith "-" then do
        let _ ← numberArgument (String.ofList (word.toList.drop 1))
        pure false
      else do
        let pid ← numberArgument word
        pure ((← ask (.send pid signal)) matches .ok _)
    if !sent then complain "No such process\n"
    sendAll signal (if sent then status else 1) rest

/-- Shows the names of signals, or that of the signal behind a status. -/
def listSignals : List String → Conduct Report
  | [] => return ⟨0, Tool.unlines ("0" :: Signal.all.map (·.name))⟩
  | word :: _ => do
    let number ← numberArgument word
    let number := if number > 128 then number - 128 else number
    if 0 < number ∧ number ≤ Signal.last then return .line (signalName number)
    else refuse ("invalid signal number or exit status: " ++ word)

/-- The signal of an argument, given with a minus sign. -/
def signalOption? (word : String) : Option Nat :=
  match word.toList with
  | '-' :: name =>
    let name := String.ofList name
    if String.ofList (name.toList.map Char.toUpper) = endName then none else signalNumber? name
  | _ => none

/-- Sends signals, or shows their names. -/
def kill : BuiltIn := fun words => do
  match words with
  | [] => refuse killUsage
  | first :: rest =>
    match signalOption? first with
    | some number => if rest.isEmpty then refuse killUsage else sendAll ⟨number⟩ 0 rest
    | none =>
      let (letters, words) ← options "ls:" words
      if letters.any (·.1 == 'l') then
        if letters.any (·.1 == 's') then refuse killUsage else listSignals words
      else
        let signal ←
          match letters.getLast? with
          | none => pure Signal.terminate
          | some (_, name) =>
            match signalOption? ("-" ++ name) with
            | some number => pure ⟨number⟩
            | none => refuse ("invalid signal number or name: " ++ name)
        if words.isEmpty then refuse killUsage else sendAll signal 0 words

end Signals

section Traps

/-- What a shell arranges for a signal, given what it is to do when it comes. -/
def arrangementFor : Option String → Arrangement
  | none => .standard
  | some "" => .ignored
  | some _ => .caught

/-- Has something done when a signal comes. Signals that were ignored from the start stay so. -/
def setTrap (number : Nat) (action : Option String) : Conduct Unit := do
  let state ← get
  let others := state.traps.filter (·.1 != number)
  let traps := others ++ (action.map fun text => (number, text)).toList
  let signal : Signal := ⟨number⟩
  if number = 0 then set { state with traps }
  else if state.ignored.contains signal then set { state with traps }
  else
    set { state with traps }
    let before ← ask (.arrange signal (arrangementFor action))
    if before = .ignored && !state.traps.any (·.1 == number) then
      let _ ← ask (.arrange signal .ignored)
      modify fun state => { state with ignored := signal :: state.ignored }

/-- Has something done when signals come. -/
def setTraps (action : Option String) : List String → Conduct Report
  | [] => return .silent 0
  | name :: rest => do
    match signalNumber? name with
    | some number =>
      setTrap number action
      setTraps action rest
    | none =>
      writeTo 2 ("trap: " ++ name ++ ": bad trap\n")
      return .silent 1

/-- Has something done when signals come, or shows what will be done. -/
def trap : BuiltIn := fun words => do
  match ← withoutOptions words with
  | [] =>
    let traps := (← get).traps.mergeSort fun one other => one.1 ≤ other.1
    return ⟨0, String.join (traps.map fun (number, action) =>
      "trap -- " ++ singleQuoted action ++ " " ++ signalName number ++ "\n")⟩
  | first :: rest =>
    if rest.isEmpty || (Tool.natural? first).any (· ≤ Signal.last) then
      setTraps none (first :: rest)
    else setTraps (if first = "-" then none else some first) rest

/-- Whether something is to be done when signals come. -/
def State.hasTraps (state : State) : Bool := state.traps.any (!·.2.isEmpty)

end Traps

section Jobs

/-- Takes note of how a process has ended. -/
def State.ended (state : State) (pid : Nat) (ending : Ending) : State :=
  { state with jobs := state.jobs.map (·.ended pid ending) }

/-- Takes note of the processes that have ended, at most `bound`. -/
def noteEnded : (bound : Nat) → Conduct Unit
  | 0 => return
  | bound + 1 => do
    match ← ask (.wait .never) with
    | .ended pid ending =>
      modify (·.ended pid ending)
      noteEnded bound
    | _ => return

/-- Adds processes that the shell does not wait for. -/
def addJob (pids : List Nat) : Conduct Unit :=
  modify fun state =>
    let taken := state.jobs.map (·.number)
    let number := ((List.range' 1 (taken.length + 1)).find? fun number =>
      !taken.contains number).getD 1
    { state with
      jobs := state.jobs ++ [⟨number, pids.map fun pid => (pid, none)⟩]
      beside := pids.getLast? }

/-- How a job stands, in words. -/
def Job.words (job : Job) : String :=
  if !job.isOver then "Running"
  else
    match job.members.getLast? with
    | some (_, some (.killed signal)) => signal.words
    | _ => if job.status = 0 then "Done" else "Done(" ++ toString job.status ++ ")"

/-- How jobs are shown, the latest first. Two of those that are left have marks. -/
def jobLines (ids : Bool) : (marks : List String) → List Job → List String
  | _, [] => []
  | marks, job :: rest =>
    let start := "[" ++ toString job.number ++ "] " ++ marks.headD " " ++ " " ++ job.words
    let spaces := String.ofList (List.replicate (33 - start.length) ' ')
    let line :=
      if ids then toString ((job.members.head?.map (·.1)).getD 0)
      else start ++ spaces ++ String.join ((job.members.drop 1).map fun _ => " | ")
    line :: jobLines ids (if job.isOver then marks else marks.tail) rest

/-- Shows the jobs; those that are over are forgotten. -/
def showJobs : BuiltIn := fun words => do
  let (letters, names) ← options "lp" words
  noteEnded endless
  let jobs ← if names.isEmpty then pure (← get).jobs.reverse else names.mapM jobOf
  modify fun state => { state with jobs := state.jobs.filter (!·.isOver) }
  return ⟨0, Tool.unlines (jobLines (letters.any (·.1 == 'p')) ["+", "-"] jobs)⟩

/-- Notes the signals that have come; the answer is the latest of them. -/
def noteSignals : Conduct (Option Signal) := do
  let notices ← ask .notices
  modify fun state => { state with
    arrived := state.arrived ++ notices, isCalled := state.isCalled || !notices.isEmpty }
  return notices.getLast?

/-- The status of a command that a signal has interrupted, which is attended to later. -/
def interruptedStatus : Conduct Nat := do
  return 128 + (((← noteSignals).map (·.number)).getD 0)

/-- Waits until jobs are over, for at most `bound` endings of processes. The answer is a status if a
signal has interrupted that. -/
def waitUntil (isOver : State → Bool) (announces : Nat → Bool) :
    (bound : Nat) → Conduct (Option Nat)
  | 0 => return none
  | bound + 1 => do
    if isOver (← get) then return none
    match ← ask (.wait .untilSignal) with
    | .ended pid ending =>
      if announces pid then announce ending
      modify (·.ended pid ending)
      waitUntil isOver announces bound
    | .interrupted => return some (← interruptedStatus)
    | _ => return none

/-- Waits for jobs, one after the other. -/
def waitFor (status : Nat) : List String → Conduct Nat
  | [] => return status
  | word :: rest => do
    let job? ←
      if word.startsWith "%" then some <$> jobOf word
      else do
        let pid ← numberArgument word
        pure ((← get).jobs.find? fun job => job.members.getLast?.any (·.1 == pid))
    match job? with
    | none => waitFor 127 rest
    | some job =>
      let now (state : State) : Option Job := state.jobs.find? (·.number == job.number)
      match ← waitUntil (fun state => (now state).all (·.isOver))
          (fun pid => job.members.any (·.1 == pid)) endless with
      | some status => return status
      | none => waitFor (((now (← get)).map (·.status)).getD 127) rest

/-- Waits for jobs, or for all of them. -/
def waitJobs : BuiltIn := fun words => do
  match ← withoutOptions words with
  | [] =>
    match ← waitUntil (·.jobs.all (·.isOver)) (fun _ => false) endless with
    | some status => return .silent status
    | none => return .silent 0
  | words => return .silent (← waitFor 127 words)

end Jobs

end TrainingLauncher.Rehearsal.Shell
