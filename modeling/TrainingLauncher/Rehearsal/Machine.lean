/-
A machine in memory on which the launcher runs processes: files, a clock, and a system on which they
do what they do. Requests of the launcher happen at a moment; time passes only while it sleeps or
waits.
-/

import TrainingLauncher.Program
import TrainingLauncher.Rehearsal.Process.Schedule
import TrainingLauncher.Rehearsal.Tool.Catalogue

namespace TrainingLauncher.Rehearsal

/-- A process that the launcher has started. -/
structure Child where
  pid : Nat
  /-- The exit code, once the launcher has been told. -/
  code : Option Int

/-- The state of the machine. -/
structure Machine where
  kernel : Kernel Task
  children : Array Child
  /-- How long it takes to sleep for a time. -/
  pace : Nat → Nat
  /-- How many directories were created for processes to meet in. -/
  rendezvousCount : Nat

namespace Machine

section Beginning

/-- The directories that every machine has. -/
def standardDirectories : List String := [
  "bin", "dev", "etc", "home", "opt", "root", "sbin", "tmp", "usr", "usr/bin", "usr/lib",
  "usr/local", "usr/local/bin", "usr/sbin", "usr/share", "var", "var/tmp"]

/-- What a file tells about the one user that every machine has. -/
def userTable : String := "root:x:0:0:root:/root:/bin/bash\n"

/-- The files every machine has. -/
def standardFiles : FileTree :=
  let directories := standardDirectories.map fun place => (place, FileEntry.directory)
  let programs := Tool.catalogue.flatMap fun (name, _) =>
    ["bin", "usr/bin"].map fun directory => (directory ++ "/" ++ name, FileEntry.program name)
  let others := [
    ("etc/passwd", .file userTable.toUTF8 false), ("dev/null", .sink), ("dev/zero", .zeros),
    ("dev/stdin", .opened 0), ("dev/stdout", .opened 1), ("dev/stderr", .opened 2)]
  (directories ++ programs ++ others).foldl (fun tree (place, entry) => tree.put place entry) .empty

/-- The id of the launcher itself. -/
def launcherPid : Nat := 999

/-- The id of the first process. -/
def firstPid : Nat := 1000

/-- A machine on which nothing has happened. -/
def initial (files : FileTree) (pace : Nat → Nat) : Machine where
  kernel := {
    files
    opened := #[]
    pipes := #[]
    processes := ∅
    clock := 0
    nextPid := firstPid
    output := .empty
    complaints := .empty }
  children := #[]
  pace := pace
  rendezvousCount := 0

end Beginning

section Programs

/-- A text that cannot be handed to a process. -/
def hasNul (text : String) : Bool := text.contains '\x00'

/-- Looks for a program in directories. One that is missing is passed over; so is one that may not
be run, which is what is told in the end. -/
def searchProgram (look : String → Except IoError α) (name : String) (refused : Bool)
    (refusal : IoError) : List String → Except IoError α
  | [] => .error (if refused then .permissionDenied else refusal)
  | directory :: rest =>
    match look (if directory.isEmpty then name else directory ++ "/" ++ name) with
    | .ok program => .ok program
    | .error error =>
      if error.kind = .permissionDenied then searchProgram look name true error rest
      else if error.kind = .notFound || error.kind = .notADirectory then
        searchProgram look name refused error rest
      else .error error

/-- Finds what a command runs: a path, or the name of a file in one of the directories that `PATH`
lists. -/
def findProgram (look : String → Except IoError α) (environment : Environment) (name : String) :
    Except IoError α :=
  if name.isEmpty || name.contains '/' then look name
  else if name.utf8ByteSize > FileTree.nameLimit then .error .fileNameTooLong
  else
    let path := environment["PATH"]?.getD Tool.standardPath
    searchProgram look name false .notFound
      ((Text.pieces (· == ':') path.toList).map String.ofList)

/-- The environment as a process finds it. -/
def entriesOf (environment : Environment) : List String :=
  environment.toList.map fun (name, value) => Text.toOctets (name ++ "=" ++ value)

/-- A process that has not begun. -/
def unborn : Process Task where
  parent := launcherPid
  activity := .done 0
  descriptors := []
  directory := ""
  arrangements := []
  arriving := []
  noticed := []
  wakes := none
  stopped := false
  ending := none

/-- What a process does that runs a command. A file that is no program is a script for a shell. -/
def activityOf (machine : Machine) (command : Command) (environment : Environment) :
    Except IoError (Activity Task Nat) := do
  if command.words.any hasNul ||
      environment.toList.any fun entry => hasNul entry.1 || hasNul entry.2 then
    throw ⟨.invalidInput, "nul byte found in provided data"⟩
  let words := command.words.map Text.toOctets
  let look (path : String) : Except IoError (String × List String) :=
    let path := Text.toOctets path
    match machine.kernel.programAt unborn path words with
    | .error error =>
      if error = .notExecutable then
        machine.kernel.programAt unborn "/bin/sh" ("/bin/sh" :: path :: words.tail)
      else .error error
    | found => found
  let (name, words) ← findProgram look environment command.program
  return Task.begin (.program name words (entriesOf environment))

/-- Where the output and the complaints of a process go. -/
def outletsOf (machine : Machine) : Output → Outlet × Outlet
  | .inherit => (.output, .complaints)
  | .file path =>
    match machine.kernel.files.look path with
    | .ok (place, _) => (.place place, .place place)
    | .error _ => (.sink, .sink)

/-- Starts a process. -/
def spawn (machine : Machine) (command : Command) (environment : Environment) (output : Output) :
    Except IoError Nat × Machine :=
  match machine.activityOf command environment with
  | .error error => (.error error, machine)
  | .ok activity =>
    let kernel := machine.kernel
    let pid := kernel.nextPid
    let (out, faults) := machine.outletsOf output
    let first := kernel.opened.size
    let opened := kernel.opened ++
      #[⟨.sink, .reading, 0⟩, ⟨out, .appending, 0⟩, ⟨faults, .appending, 0⟩]
    let process := { unborn with
      activity
      descriptors := [⟨0, first, false⟩, ⟨1, first + 1, false⟩, ⟨2, first + 2, false⟩] }
    (.ok pid, { machine with
      kernel := { kernel with
        opened, processes := kernel.processes.insert pid process, nextPid := pid + 1 }
      children := machine.children.push ⟨pid, none⟩ })

end Programs

section Children

/-- The exit code of a process: its status, or the signal that has ended it. -/
def codeOf : Ending → Int
  | .exited status => status
  | .killed signal => -(signal.number : Int)

/-- Answers from what is known of a child. -/
def ask (machine : Machine) (number : Nat)
    (request : Machine → Child → Except IoError α × Machine) : Except IoError α × Machine :=
  match machine.children[number]? with
  | none => (.error .notFound, machine)
  | some child => request machine child

/-- The exit code of a child, if it has ended. The launcher is told once; nothing is left of the
process then. -/
def poll (number : Nat) (machine : Machine) (child : Child) :
    Except IoError (Option Int) × Machine :=
  match child.code, machine.kernel.ending? child.pid with
  | some code, _ => (.ok (some code), machine)
  | none, none => (.ok none, machine)
  | none, some ending =>
    let code := codeOf ending
    (.ok (some code), { machine with
      kernel := { machine.kernel with processes := machine.kernel.processes.erase child.pid }
      children := machine.children.set! number { child with code := some code } })

/-- Asks a child to stop. One whose exit code is known cannot be asked. -/
def terminate (machine : Machine) (child : Child) : Except IoError Unit × Machine :=
  if child.code.isSome then (.error .noSuchProcess, machine)
  else (.ok (), { machine with kernel := machine.kernel.send child.pid Signal.terminate })

/-- Stops a child. -/
def kill (machine : Machine) (child : Child) : Except IoError Unit × Machine :=
  (.ok (), { machine with kernel := machine.kernel.send child.pid Signal.kill })

/-- How many moments a child is waited for at most. -/
def waitLimit : Nat := 100000000

/-- Lets time pass until a child ends. -/
def wait (number : Nat) (machine : Machine) (child : Child) : Except IoError Int × Machine :=
  let waited :=
    if child.code.isSome then machine
    else { machine with kernel := machine.kernel.passUntilEnded system child.pid waitLimit }
  let (code, machine) := poll number waited child
  (code.map (·.getD 0), machine)

end Children

section Requests

/-- Lets time pass. -/
def pass (machine : Machine) (milliseconds : Nat) : Machine :=
  { machine with kernel := machine.kernel.pass system milliseconds }

/-- The machine with other files. -/
def withFiles (machine : Machine) (files : FileTree) : Machine :=
  { machine with kernel := { machine.kernel with files } }

/-- A change of the files that may fail. -/
def change (machine : Machine) (changed : Except IoError FileTree) :
    Except IoError Unit × Machine :=
  match changed with
  | .ok files => (.ok (), machine.withFiles files)
  | .error error => (.error error, machine)

/-- Writes to the output of the launcher. -/
def print (machine : Machine) (bytes : ByteArray) : Machine :=
  { machine with kernel := { machine.kernel with output := machine.kernel.output ++ bytes } }

/-- Writes to where the complaints of the launcher go. -/
def complain (machine : Machine) (line : String) : Machine :=
  let complaints := machine.kernel.complaints ++ (line ++ "\n").toUTF8
  { machine with kernel := { machine.kernel with complaints } }

/-- The answer to a request, and the machine afterwards. What the launcher tells about its own work
is not kept. -/
def answer : (request : Request) → Machine → request.Answer × Machine
  | .report _, machine => ((), machine)
  | .sleep milliseconds, machine => ((), machine.pass (machine.pace milliseconds))
  | .interrupted, machine => (false, machine)
  | .createDirectory path, machine =>
    let (result, files) := machine.kernel.files.createDirectory path
    (result, machine.withFiles files)
  | .writeFile path content, machine =>
    machine.change (machine.kernel.files.write path content.toUTF8)
  | .fileExists path, machine => ((machine.kernel.files.look path).isOk, machine)
  | .readFile path, machine => (machine.kernel.files.readText path, machine)
  | .openLog path, machine =>
    match machine.kernel.files.touch path with
    | .ok (files, length) => (.ok length, machine.withFiles files)
    | .error error => (.error error, machine)
  | .readLog path offset limit, machine =>
    ((machine.kernel.files.read path).map fun content => content.extract offset (offset + limit),
      machine)
  | .forward bytes, machine => (.ok (), machine.print bytes)
  | .flushObserver, machine => (.ok (), machine)
  | .print text, machine => ((), machine.print text.toUTF8)
  | .complain line, machine => ((), machine.complain line)
  | .createRendezvous stem, machine =>
    let directory := s!"/tmp/{stem}{machine.rendezvousCount}"
    match machine.kernel.files.createDirectory directory with
    | (.ok (), files) => (.ok directory, { machine.withFiles files with
        rendezvousCount := machine.rendezvousCount + 1 })
    | (.error error, _) => (.error error, machine)
  | .removeRendezvous directory, machine =>
    (.ok (), machine.withFiles (machine.kernel.files.removeTree directory))
  | .spawn _ command environment output, machine => machine.spawn command environment output
  | .poll child, machine => machine.ask child (poll child)
  | .terminate child, machine => machine.ask child terminate
  | .kill child, machine => machine.ask child kill
  | .wait child, machine => machine.ask child (wait child)

/-- The machine as a host. -/
def host : Host Machine := ⟨answer⟩

/-- How many passes of supervision a rehearsal on the machine lasts at most. -/
def patience : Nat := 100000

end Requests

end Machine

end TrainingLauncher.Rehearsal
