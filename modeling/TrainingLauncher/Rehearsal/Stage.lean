/-
A machine that follows a script: scripted processes, a clock on which sleeping takes no time, an
observer that may refuse what it is handed, and events that happen after so many sleeps. It keeps
what a rehearsal is judged by.
-/

import TrainingLauncher.Rehearsal.FileTree
import TrainingLauncher.Rehearsal.ScriptedProcess

namespace TrainingLauncher.Rehearsal

/-- Something that happens by itself. -/
inductive Action where
  | append (file : String) (bytes : ByteArray)
  | remove (file : String)
  /-- The process of an id ends with a code. -/
  | finish (pid : Nat) (code : Int)
  /-- The operator asks the launcher to stop. -/
  | interrupt
  /-- A process leaves a file in the directory where the processes meet. -/
  | useRendezvous
  /-- Someone else removes that directory. -/
  | removeRendezvous

/-- An action and the number of sleeps after which it happens. -/
structure Cue where
  sleeps : Nat
  action : Action

/-- How the observer takes what it is handed. -/
inductive ObserverMode where
  | collects
  | refusesBytes
  | refusesFlush
  deriving DecidableEq, Repr

/-- An attempt to start a process. -/
structure Attempt where
  command : Command
  environment : Environment
  output : Output
  /-- The directory that the process was told to meet the others in existed. -/
  rendezvousExisted : Option Bool
  /-- The number of the child, if the attempt succeeded. -/
  child : Option Nat

/-- The state of the machine. -/
structure Stage where
  files : FileTree
  /-- The behaviors of the processes to come, in order, and that of any later one. -/
  script : List Behavior
  fallback : Behavior
  processes : Array ScriptedProcess
  attempts : Array Attempt
  /-- The sleeps so far, in milliseconds, each with the number of times in a row. -/
  sleeps : Array (Nat × Nat)
  sleepCount : Nat
  cues : List Cue
  observerMode : ObserverMode
  observed : ByteArray
  interrupted : Bool
  /-- The directory where the processes meet, while it exists. -/
  rendezvous : Option String
  /-- Where such a directory is created. -/
  rendezvousPlace : String
  notes : Array Note

namespace Stage

/-- The id of the first process. -/
def firstPid : Nat := 1000

/-- A machine on which nothing has happened. -/
def initial (files : FileTree) (script : List Behavior) (fallback : Behavior) : Stage where
  files := files
  script := script
  fallback := fallback
  processes := #[]
  attempts := #[]
  sleeps := #[]
  sleepCount := 0
  cues := []
  observerMode := .collects
  observed := .empty
  interrupted := false
  rendezvous := none
  rendezvousPlace := "/tmp/"
  notes := #[]

/-- Adds bytes to a file, which is created if it is missing. -/
def append (stage : Stage) (file : String) (bytes : ByteArray) : Stage :=
  match stage.files.read file with
  | .ok _ => { stage with files := stage.files.appendTo file bytes }
  | .error _ => { stage with files := stage.files.plant file bytes }

/-- Changes a process, if there is one of that number. -/
def updateProcess (stage : Stage) (child : Nat) (update : ScriptedProcess → ScriptedProcess) :
    Stage :=
  { stage with processes := stage.processes.modify child update }

/-- Lets an action happen. -/
def act (stage : Stage) : Action → Stage
  | .append file bytes => stage.append file bytes
  | .remove file => { stage with files := stage.files.remove file }
  | .finish pid code => stage.updateProcess (pid - firstPid) (·.finish code)
  | .interrupt => { stage with interrupted := true }
  | .useRendezvous => stage
  | .removeRendezvous => { stage with rendezvous := none }

/-- Adds a pause to the sleeps so far. -/
def countSleep (sleeps : Array (Nat × Nat)) (milliseconds : Nat) : Array (Nat × Nat) :=
  match sleeps.back? with
  | some (last, times) =>
    if last = milliseconds then sleeps.pop.push (last, times + 1)
    else sleeps.push (milliseconds, 1)
  | none => sleeps.push (milliseconds, 1)

/-- Sleeps; afterwards happens what was to happen after this sleep. -/
def sleep (stage : Stage) (milliseconds : Nat) : Stage :=
  let count := stage.sleepCount + 1
  let slept := { stage with
    sleeps := countSleep stage.sleeps milliseconds
    sleepCount := count }
  (stage.cues.filter (·.sleeps == count)).foldl (fun stage cue => stage.act cue.action) slept

/-- Whether the directory that an environment names for the processes to meet in exists. -/
def meets (stage : Stage) (environment : Environment) : Option Bool :=
  environment["PADDLE_GLOO_FS_PATH"]?.map fun path => stage.rendezvous == some path

/-- Tries to start a process, with the next behavior of the script. -/
def spawn (stage : Stage) (command : Command) (environment : Environment) (output : Output) :
    Except IoError Nat × Stage :=
  let (behavior, script) :=
    match stage.script with
    | [] => (stage.fallback, [])
    | next :: rest => (next, rest)
  let child := stage.processes.size
  let attempt : Attempt := {
    command, environment, output
    rendezvousExisted := stage.meets environment
    child := if behavior.spawnError.isSome then none else some child }
  let stage := { stage with script := script, attempts := stage.attempts.push attempt }
  match behavior.spawnError with
  | some text => (.error (.other text), stage)
  | none =>
    let process := ScriptedProcess.start (firstPid + child) behavior command environment
    let stage := { stage with processes := stage.processes.push process }
    match output with
    | .inherit => (.ok process.pid, stage)
    | .file path =>
      (.ok process.pid, { stage with files := stage.files.appendTo path behavior.output })

/-- Hands a request to a process. -/
def ask (stage : Stage) (child : Nat)
    (request : ScriptedProcess → Except IoError α × ScriptedProcess) : Except IoError α × Stage :=
  match stage.processes[child]? with
  | none => (.error .notFound, stage)
  | some process =>
    let (answer, process) := request process
    (answer, stage.updateProcess child fun _ => process)

/-- Reads at most `limit` bytes of a file, from `offset` on. -/
def readLog (stage : Stage) (path : String) (offset limit : Nat) : Except IoError ByteArray :=
  (stage.files.read path).map fun content => content.extract offset (offset + limit)

/-- A change of the files that may fail. -/
def change (stage : Stage) (changed : Except IoError FileTree) : Except IoError Unit × Stage :=
  match changed with
  | .ok files => (.ok (), { stage with files })
  | .error error => (.error error, stage)

/-- The answer to a request, and the machine afterwards. -/
def answer : (request : Request) → Stage → request.Answer × Stage
  | .report note, stage => ((), { stage with notes := stage.notes.push note })
  | .sleep milliseconds, stage => ((), stage.sleep milliseconds)
  | .interrupted, stage => (stage.interrupted, stage)
  | .createDirectory path, stage =>
    let (result, files) := stage.files.createDirectory path
    (result, { stage with files })
  | .writeFile path content, stage => stage.change (stage.files.write path content.toUTF8)
  | .fileExists path, stage => ((stage.files.look path).isOk, stage)
  | .readFile path, stage => (stage.files.readText path, stage)
  | .openLog path, stage =>
    match stage.files.touch path with
    | .ok (files, length) => (.ok length, { stage with files })
    | .error error => (.error error, stage)
  | .readLog path offset limit, stage => (stage.readLog path offset limit, stage)
  | .forward bytes, stage =>
    if stage.observerMode = .refusesBytes then
      (.error ⟨0, .other "observer is closed"⟩, stage)
    else (.ok (), { stage with observed := stage.observed ++ bytes })
  | .flushObserver, stage =>
    if stage.observerMode = .refusesFlush then (.error (.other "observer can't flush"), stage)
    else (.ok (), stage)
  | .print _, stage => ((), stage)
  | .complain _, stage => ((), stage)
  | .createRendezvous stem, stage =>
    let directory := stage.rendezvousPlace ++ stem
    (.ok directory, { stage with rendezvous := some directory })
  | .removeRendezvous directory, stage =>
    if stage.rendezvous = some directory then (.ok (), { stage with rendezvous := none })
    else (.error .notFound, stage)
  | .spawn _ command environment output, stage => stage.spawn command environment output
  | .poll child, stage => stage.ask child (·.poll)
  | .terminate child, stage => stage.ask child (·.terminate)
  | .kill child, stage => stage.ask child (·.kill)
  | .wait child, stage => stage.ask child (·.wait)

/-- The machine as a host. -/
def host : Host Stage := ⟨answer⟩

/-- A number of passes after which nothing new can happen: every process has run as long as it does
by itself, and no action and no failing poll is left. -/
def horizon (stage : Stage) : Nat :=
  let behaviors := stage.fallback :: stage.script ++
    stage.processes.toList.map (·.behavior)
  let runs := behaviors.map fun behavior => behavior.runsFor.getD 0
  let failures := behaviors.flatMap (·.pollErrors)
  runs.foldl max 0 + failures.foldl max 0 + (stage.cues.map (·.sleeps)).foldl max 0 + 3

end Stage

end TrainingLauncher.Rehearsal
