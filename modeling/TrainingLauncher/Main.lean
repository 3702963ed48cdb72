/-
The launcher as a program of its own. Requests for files, output and time go to the real machine.
This host starts no processes: a job is refused at its first one, after everything before that has
been done.
-/

import TrainingLauncher.CommandLine.Execution

namespace TrainingLauncher.Terminal

/-- A failed operation of the real machine. -/
def refusal (error : IO.Error) : IoError :=
  match error with
  | .noFileOrDirectory _ _ _ => .notFound
  | .permissionDenied _ _ _ => .permissionDenied
  | .alreadyExists _ _ _ => .alreadyExists
  | other => .other (toString other)

/-- Tries an operation. -/
def attempt (operation : IO α) : IO (Except IoError α) := do
  match ← operation.toBaseIO with
  | .ok value => return .ok value
  | .error error => return .error (refusal error)

/-- Opens a file for appending; the answer is its length. -/
def openLog (path : String) : IO Nat := do
  let handle ← IO.FS.Handle.mk path .append
  handle.flush
  return (← IO.FS.readBinFile path).size

/-- Writes to the standard output. -/
def put (bytes : ByteArray) : IO Unit := do
  (← IO.getStdout).write bytes

/-- Creates a directory of its own for processes to meet in. -/
def createRendezvous (stem : String) : IO String := do
  let number ← IO.rand 0 999999999
  let directory := s!"/tmp/{stem}{number}"
  IO.FS.createDir directory
  return directory

/-- This host starts no processes. -/
def noProcess : IoError := ⟨.uncategorized, "this host starts no processes"⟩

/-- Answers a request. -/
def answer : (request : Request) → IO request.Answer
  | .report note => IO.eprintln note.line
  | .sleep milliseconds => IO.sleep milliseconds.toUInt32
  | .interrupted => return false
  | .createDirectory path => attempt (IO.FS.createDirAll path)
  | .writeFile path content => attempt (IO.FS.writeFile path content)
  | .fileExists path => return (← (IO.FS.realPath path).toBaseIO).toOption.isSome
  | .readFile path => attempt (IO.FS.readFile path)
  | .openLog path => attempt (openLog path)
  | .readLog path offset limit => attempt do
    return (← IO.FS.readBinFile path).extract offset (offset + limit)
  | .forward bytes => return (← attempt (put bytes)).mapError (⟨0, ·⟩)
  | .flushObserver => attempt do (← IO.getStdout).flush
  | .print text => put text.toUTF8
  | .complain line => IO.eprintln line
  | .createRendezvous stem => attempt (createRendezvous stem)
  | .removeRendezvous directory => attempt (IO.FS.removeDirAll directory)
  | .spawn _ _ _ _ => return .error noProcess
  | .poll _ => return .error noProcess
  | .terminate _ => return .error noProcess
  | .kill _ => return .error noProcess
  | .wait _ => return .error noProcess

/-- Runs a program, request by request. -/
def perform : Program α → IO α
  | .done value => return value
  | .ask request next => do perform (next (← answer request))

/-- The environment of the launcher, as the machine lists it. -/
def environment : IO Environment := do
  let listed ← (IO.FS.readFile "/proc/self/environ").toBaseIO
  let entries := ((listed.toOption.getD "").splitOn "\x00").filterMap fun entry =>
    match entry.toList.dropWhile (· != '=') with
    | _ :: value =>
      some (String.ofList (entry.toList.takeWhile (· != '=')), String.ofList value)
    | [] => none
  return .ofList entries

/-- The home directory that the machine lists for the account of the launcher. -/
def accountHome : IO (Option String) := do
  let status ← (IO.FS.readFile "/proc/self/status").toBaseIO
  let accounts ← (IO.FS.readFile "/etc/passwd").toBaseIO
  let number := ((status.toOption.getD "").splitOn "\n").findSome? fun line =>
    match line.splitOn "\t" with
    | "Uid:" :: number :: _ => some number
    | _ => none
  return ((accounts.toOption.getD "").splitOn "\n").findSome? fun line =>
    match line.splitOn ":" with
    | [_, _, account, _, _, home, _] =>
      if some account = number && !home.isEmpty then some home else none
    | _ => none

/-- The names of the files under `/dev`. -/
def deviceFiles : IO (List String) := do
  let listed ← (do (← IO.FS.realPath "/dev").readDir : IO _).toBaseIO
  return (listed.toOption.getD #[]).toList.map (·.fileName)

/-- More passes than any run takes. -/
def patience : Nat := 1000000000000

end TrainingLauncher.Terminal

open TrainingLauncher in
/-- Carries out the words of a command line on the real machine. -/
def main (words : List String) : IO UInt32 := do
  let node : Node := {
    environment := ← Terminal.environment
    accountHome := ← Terminal.accountHome
    resolver := ⟨none, none⟩
    deviceFiles := ← Terminal.deviceFiles
    probes := [] }
  let code ← Terminal.perform (CommandLine.execute words node Terminal.patience)
  (← IO.getStdout).flush
  return code.toUInt32
