/-
Starting the processes of the local pod, one after the other. When one cannot be started, those
before it are stopped and the error is the answer.
-/

import TrainingLauncher.Environment.Role
import TrainingLauncher.Environment.Table
import TrainingLauncher.Handle

namespace TrainingLauncher

/-- The path of an entry in a directory. -/
def joinPath (directory entry : String) : String :=
  if entry.startsWith '/' then entry
  else if directory.isEmpty || directory.endsWith '/' then directory ++ entry
  else directory ++ "/" ++ entry

/-- What the processes of a launcher have in common. -/
structure Launcher where
  command : Command
  logDir : Option String
  /-- The variables every process inherits. -/
  inherited : Environment
  /-- The number of the next child. -/
  nextChild : Nat

namespace Launcher

/-- A launcher whose processes inherit an environment without its proxy settings. -/
def new (command : Command) (logDir : Option String) (base : Environment) (nextChild : Nat) :
    Launcher :=
  ⟨command, logDir, base.withoutProxies, nextChild⟩

/-- One process to be started. -/
structure Task where
  role : Role
  process : RoleProcess
  /-- The position among the local processes of the role, and their number. -/
  slot : Nat
  slots : Nat
  /-- The variables of its role, or why there are none. -/
  own : Except LaunchError Environment

/-- The section of the list of endpoints for one role. -/
def endpointSection (name : String) (endpoints : List Endpoint) : String :=
  if endpoints.isEmpty then ""
  else name ++ ": \n" ++ Text.joined "\n" (Text.fields (Endpoint.join endpoints)) ++ "\n"

/-- The list of the endpoints of every role. -/
def endpointListing (cluster : Cluster) : String :=
  endpointSection "PADDLE_TRAINER_ENDPOINTS" (cluster.endpoints .trainer) ++
    endpointSection "PADDLE_PSERVERS_IP_PORT_LIST" (cluster.endpoints .server) ++
    endpointSection "PADDLE_HETER_TRAINER_IP_PORT_LIST" (cluster.endpoints .heterWorker)

/-- Writes the list of endpoints into the log directory, if there is one. -/
def writeEndpoints (launcher : Launcher) (cluster : Cluster) :
    Program (Except LaunchError Unit) :=
  match launcher.logDir with
  | none => return .ok ()
  | some directory => do
    match ← Program.request (.createDirectory directory) with
    | .error error => return .error (.io error)
    | .ok () =>
      let path := joinPath directory "endpoints.log"
      match ← Program.request (.writeFile path (endpointListing cluster)) with
      | .error error => return .error (.io error)
      | .ok () => return .ok ()

/-- A log file that is open for a process, and how long it was before. -/
structure OpenLog where
  path : Option String
  length : Nat
  deriving DecidableEq, Repr

/-- Opens the log file of a process, if there is a log directory. -/
def openLog (launcher : Launcher) (task : Task) : Program (Except LaunchError OpenLog) :=
  match launcher.logDir with
  | none => return .ok ⟨none, 0⟩
  | some directory => do
    match ← Program.request (.createDirectory directory) with
    | .error error => return .error (.io error)
    | .ok () =>
      let path := joinPath directory s!"{task.role.logStem}.{task.slot}"
      match ← Program.request (.openLog path) with
      | .error error => return .error (.io error)
      | .ok length => return .ok ⟨some path, length⟩

/-- Shows the operator the variables of the first process of a role. -/
def reportVariables (task : Task) (own : Environment) : Program Unit :=
  if task.slot = 0 then
    let shown := own.table ("Distributed Envs", "Value")
    Program.report .info <|
      s!"local {task.role.tag} starts {task.slots} processes; " ++
        s!"first process environment:{shown}"
  else pure ()

/-- Starts a process as the child of a number. -/
def startOne (launcher : Launcher) (child : Nat) (task : Task) :
    Program (Except LaunchError Handle) :=
  match task.own with
  | .error error => return .error error
  | .ok own => do
    reportVariables task own
    match ← launcher.openLog task with
    | .error error => return .error error
    | .ok log =>
      let output := (log.path.map Output.file).getD .inherit
      let environment := launcher.inherited.under own
      match ← Program.request (.spawn child launcher.command environment output) with
      | .error error => return .error (.spawn task.process.rank error)
      | .ok pid =>
        return .ok {
          child, pid
          role := task.role
          rank := task.process.rank
          slot := task.slot
          logPath := log.path
          logOpen := log.path.isSome
          logOffset := log.length }

/-- Stops a process that was started in vain; a failure is only reported. -/
def discard (handle : Handle) : Program Unit := do
  let refused := Program.report .warn "failed to stop process after launch error"
  match ← handle.kill with
  | .error _ => refused
  | .ok () =>
    match ← handle.wait with
    | .error _ => refused
    | .ok _ => return ()

/-- Stops processes that were started in vain. -/
def discardAll : List Handle → Program Unit
  | [] => pure ()
  | handle :: rest => do
    discard handle
    discardAll rest

/-- Starts processes in order, after those that are started already. At the first that cannot be
started all of them are stopped and their logs closed. -/
def startAll (launcher : Launcher) (started : List Handle) :
    List Task → Program (Except LaunchError Unit × List Handle)
  | [] => pure (.ok (), started)
  | task :: rest => do
    match ← launcher.startOne (launcher.nextChild + started.length) task with
    | .ok handle => launcher.startAll (started ++ [handle]) rest
    | .error error =>
      discardAll started
      return (.error error, started.map Handle.closeLog)

/-- One task for each process of a role on the pod. -/
def tasks (pod : Pod) (role : Role)
    (own : RoleProcess → Nat → Except LaunchError Environment) : List Task :=
  (pod.processes role).zipIdx.map fun (process, slot) =>
    ⟨role, process, slot, (pod.processes role).length, own process slot⟩

/-- The tasks of a collective job: the pod's trainers. -/
def trainerTasks (cluster : Cluster) (pod : Pod) (extra : Environment) : List Task :=
  tasks pod .trainer fun trainer _ => .ok (extra.under (.ofTrainer cluster trainer))

/-- The tasks of a parameter-server job: the pod's servers, workers and heter workers. -/
def serverTasks (pod : Pod) (job : Environment.ServerJob) : List Task :=
  [Role.server, .trainer, .heterWorker].flatMap fun role => tasks pod role (job.environment role)

/-- Starts the pod's trainers, with the variables `extra` beneath those of their role. -/
def startTrainers (launcher : Launcher) (cluster : Cluster) (pod : Pod) (extra : Environment) :
    Program (Except LaunchError Unit × List Handle) := do
  match ← launcher.writeEndpoints cluster with
  | .error error => return (.error error, [])
  | .ok () =>
    if let some directory := launcher.logDir then
      let path := joinPath directory "endpoints.log"
      Program.report .info s!"details about PADDLE_TRAINER_ENDPOINTS can be found in {path}"
    launcher.startAll [] (trainerTasks cluster pod extra)

/-- Starts the pod's servers, then its workers, then its heter workers. -/
def startServerRoles (launcher : Launcher) (cluster : Cluster) (pod : Pod)
    (job : Environment.ServerJob) : Program (Except LaunchError Unit × List Handle) := do
  match ← launcher.writeEndpoints cluster with
  | .error error => return (.error error, [])
  | .ok () =>
    match ← launcher.startAll [] (serverTasks pod job) with
    | (.error error, handles) => return (.error error, handles)
    | (.ok (), handles) =>
      if let some directory := launcher.logDir then
        Program.report .info <|
          s!"check server, worker and heter worker logs in {directory}/serverlog.*, " ++
            s!"{directory}/workerlog.* and {directory}/heterlog.*"
      return (.ok (), handles)

end Launcher

end TrainingLauncher
