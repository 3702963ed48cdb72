/-
The system that processes run on: files, open files, pipes, a clock, and the processes themselves.
`Kernel.perform` answers a call of a process, unless the process has to wait. Every change of a
process goes through the table of processes, so that what one does to another, or to itself, is
found there.
-/

import TrainingLauncher.Rehearsal.Process.Activity
import TrainingLauncher.Text.Octets

namespace TrainingLauncher.Rehearsal

/-- What is open. -/
inductive Outlet where
  /-- The output of the launcher. -/
  | output
  /-- Where the complaints of the launcher go. -/
  | complaints
  /-- What stands at a place. -/
  | place (path : String)
  | pipeStart (pipe : Nat)
  | pipeEnd (pipe : Nat)
  | sink
  | zeros
  deriving DecidableEq, Repr

/-- An open file, with the position at which it is read and written next. -/
structure OpenFile where
  outlet : Outlet
  mode : OpenMode
  position : Nat

/-- A number under which a process has a file open. -/
structure Descriptor where
  number : Nat
  /-- The number of the open file in the whole system. -/
  file : Nat
  /-- Programs that the process runs in its place do not have it. -/
  isPrivate : Bool
  deriving DecidableEq, Repr

/-- A process. -/
structure Process (τ : Type) where
  parent : Nat
  activity : Activity τ Nat
  descriptors : List Descriptor
  /-- The place of the directory that it is in. -/
  directory : String
  /-- Its arrangements for signals that are not the standard one. -/
  arrangements : List (Signal × Arrangement)
  /-- Signals that were sent to it and have not reached it. -/
  arriving : List Signal
  /-- Signals that have reached it and that it has not asked for. -/
  noticed : List Signal
  /-- When the sleep ends that it is in. -/
  wakes : Option Nat
  stopped : Bool
  ending : Option Ending

/-- How tasks begin, and which task a program is. -/
structure System (τ : Type) where
  begin : τ → Activity τ Nat
  program : (name : String) → (words environment : List String) → τ

/-- The state of the system. -/
structure Kernel (τ : Type) where
  files : FileTree
  opened : Array OpenFile
  pipes : Array ByteArray
  processes : Std.TreeMap Nat (Process τ)
  /-- The time since the start, in milliseconds. -/
  clock : Nat
  /-- The id of the next process. -/
  nextPid : Nat
  output : ByteArray
  complaints : ByteArray

namespace Process

/-- What the process has arranged for a signal. -/
def arrangement (process : Process τ) (signal : Signal) : Arrangement :=
  if signal.isFinal then .standard else (process.arrangements.lookup signal).getD .standard

/-- The process with an arrangement. -/
def arrange (process : Process τ) (signal : Signal) (arrangement : Arrangement) : Process τ :=
  let others := process.arrangements.filter (·.1 != signal)
  { process with arrangements :=
      if arrangement = .standard then others else (signal, arrangement) :: others }

/-- The open file that a descriptor stands for. -/
def openFile? (process : Process τ) (number : Nat) : Option Nat :=
  (process.descriptors.find? (·.number == number)).map (·.file)

/-- The lowest number from `least` on that is no descriptor. -/
def freeDescriptor (process : Process τ) (least : Nat) : Nat :=
  let taken := process.descriptors.map (·.number)
  ((List.range' least (taken.length + 1)).find? fun number => !taken.contains number).getD least

/-- The process with a descriptor, in place of another one of that number. -/
def withDescriptor (process : Process τ) (descriptor : Descriptor) : Process τ :=
  { process with descriptors :=
      descriptor :: process.descriptors.filter (·.number != descriptor.number) }

/-- A path from the root that leads where a path leads from the directory of the process. -/
def absolute (process : Process τ) (path : String) : String :=
  let path := Text.fromOctets path
  if path.isEmpty || path.startsWith "/" then path
  else "/" ++ FileTree.below process.directory path

end Process

namespace Kernel

/-- The process that stands for nobody: those whose parents have ended belong to it. -/
def nobody : Nat := 1

/-- How many bytes a pipe holds before whoever writes has to wait. -/
def pipeLimit : Nat := 65536

section Table

/-- Changes a process. -/
def update (kernel : Kernel τ) (pid : Nat) (change : Process τ → Process τ) : Kernel τ :=
  { kernel with processes := kernel.processes.modify pid change }

/-- The processes whose parent is this one. -/
def children (kernel : Kernel τ) (pid : Nat) : List (Nat × Process τ) :=
  kernel.processes.toList.filter fun entry => entry.2.parent == pid

/-- Sends a signal. A process that is stopped goes on when it is told to, even one that ignores
it. -/
def send (kernel : Kernel τ) (pid : Nat) (signal : Signal) : Kernel τ :=
  kernel.update pid fun process =>
    if process.ending.isSome then process
    else
      let arriving := process.arriving.filter (!signal.revokes ·)
      let isSettled := process.arrangement signal = .ignored || arriving.contains signal
      { process with
        arriving :=
          if isSettled then arriving
          else (arriving ++ [signal]).mergeSort fun one other => one.rank ≤ other.rank
        stopped := process.stopped && signal.effect != .continues }

/-- Ends a process. Its files are closed, its children belong to nobody, and its parent is told. -/
def finish (kernel : Kernel τ) (pid : Nat) (ending : Ending) : Kernel τ :=
  match kernel.processes[pid]? with
  | none => kernel
  | some process =>
    let parent := process.parent
    let left := (kernel.children pid).foldl (fun (kernel : Kernel τ) (child, process) =>
      if process.ending.isSome then { kernel with processes := kernel.processes.erase child }
      else kernel.update child fun process => { process with parent := nobody }) kernel
    if parent = nobody then { left with processes := left.processes.erase pid }
    else
      (left.update pid fun process => { process with
        activity := .done 0, descriptors := [], arriving := [], noticed := [], wakes := none
        stopped := false, ending := some ending }).send parent Signal.child

/-- A process has a file open at either end of a pipe. -/
def hasEnd (kernel : Kernel τ) (outlet : Outlet) : Bool :=
  kernel.processes.any fun _ process => process.descriptors.any fun descriptor =>
    match kernel.opened[descriptor.file]? with
    | some file => file.outlet == outlet
    | none => false

end Table

section Opening

/-- Opens something for a process; the answer is the descriptor. -/
def openOutlet (kernel : Kernel τ) (pid : Nat) (outlet : Outlet) (mode : OpenMode) (least : Nat) :
    Nat × Kernel τ :=
  match kernel.processes[pid]? with
  | none => (0, kernel)
  | some process =>
    let number := process.freeDescriptor least
    let opened := { kernel with opened := kernel.opened.push ⟨outlet, mode, 0⟩ }
    (number, opened.update pid (·.withDescriptor ⟨number, kernel.opened.size, false⟩))

/-- Opens a file for a process. A descriptor that has a path of its own is opened once more. -/
def openPath (kernel : Kernel τ) (pid : Nat) (process : Process τ) (path : String)
    (mode : OpenMode) : Except IoError Nat × Kernel τ :=
  let path := process.absolute path
  let emptied (place : String) (kernel : Kernel τ) : Kernel τ :=
    if mode.empties then { kernel with files := kernel.files.alter place fun _ => .empty }
    else kernel
  let «open» (outlet : Outlet) (kernel : Kernel τ) : Except IoError Nat × Kernel τ :=
    let kernel := if let .place place := outlet then emptied place kernel else kernel
    let (number, kernel) := kernel.openOutlet pid outlet mode 0
    (.ok number, kernel)
  match kernel.files.look path with
  | .ok (place, entry) =>
    if mode.excludes then (.error .alreadyExists, kernel)
    else
      match entry with
      | .directory =>
        if mode.writes then (.error .isADirectory, kernel) else «open» (.place place) kernel
      | .sink => «open» .sink kernel
      | .zeros => «open» .zeros kernel
      | .opened number =>
        match (process.openFile? number).bind fun file => kernel.opened[file]? with
        | some file => «open» file.outlet kernel
        | none => (.error .notFound, kernel)
      | _ => «open» (.place place) kernel
  | .error error =>
    if mode.creates && error.kind = .notFound then
      match kernel.files.createFile path with
      | .ok (place, files) => «open» (.place place) { kernel with files }
      | .error error => (.error error, kernel)
    else if mode.creates && error.kind = .notADirectory && path.endsWith "/" then
      ((kernel.files.createFile path).map fun _ => 0, kernel)
    else (.error error, kernel)

end Opening

section Transfer

/-- Reads from an open file; the answer is `none` as long as there is nothing to read. -/
def readFile (kernel : Kernel τ) (number limit : Nat) :
    Option (Except IoError ByteArray × Kernel τ) :=
  match kernel.opened[number]? with
  | none => some (.error .badDescriptor, kernel)
  | some file =>
    if !file.mode.reads then some (.error .badDescriptor, kernel)
    else
      match file.outlet with
      | .place place =>
        match (kernel.files.entry? place).map FileTree.contentOf with
        | some (.ok content) =>
          let bytes := content.extract file.position (file.position + limit)
          let moved := { file with position := file.position + bytes.size }
          some (.ok bytes, { kernel with opened := kernel.opened.set! number moved })
        | some (.error error) => some (.error error, kernel)
        | none => some (.ok .empty, kernel)
      | .pipeStart pipe =>
        let held := kernel.pipes.getD pipe .empty
        let left := held.extract limit held.size
        if !held.isEmpty then
          some (.ok (held.extract 0 limit), { kernel with pipes := kernel.pipes.set! pipe left })
        else if kernel.hasEnd (.pipeEnd pipe) then none
        else some (.ok .empty, kernel)
      | .zeros => some (.ok ⟨Array.replicate limit 0⟩, kernel)
      | _ => some (.ok .empty, kernel)

/-- A content with bytes written over it from a position on. -/
def overwritten (content bytes : ByteArray) (position : Nat) : ByteArray :=
  let gap := ByteArray.mk (Array.replicate (position - content.size) 0)
  content.extract 0 position ++ gap ++ bytes ++
    content.extract (position + bytes.size) content.size

/-- Writes to an open file; the answer is `none` as long as there is no room. Nobody reads from a
pipe: whoever writes to it gets a signal. -/
def writeFile (kernel : Kernel τ) (pid number : Nat) (bytes : ByteArray) :
    Option (Except IoError Unit × Kernel τ) :=
  match kernel.opened[number]? with
  | none => some (.error .badDescriptor, kernel)
  | some file =>
    if !file.mode.writes then some (.error .badDescriptor, kernel)
    else
      match file.outlet with
      | .output => some (.ok (), { kernel with output := kernel.output ++ bytes })
      | .complaints => some (.ok (), { kernel with complaints := kernel.complaints ++ bytes })
      | .place place =>
        let files := kernel.files.alter place fun content =>
          if file.mode.appends then content ++ bytes
          else overwritten content bytes file.position
        let moved := { file with position := file.position + bytes.size }
        some (.ok (), { kernel with files, opened := kernel.opened.set! number moved })
      | .pipeEnd pipe =>
        if !kernel.hasEnd (.pipeStart pipe) then
          some (.error .brokenPipe, kernel.send pid Signal.brokenPipe)
        else
          let held := kernel.pipes.getD pipe .empty
          if held.size ≥ pipeLimit then none
          else some (.ok (), { kernel with pipes := kernel.pipes.set! pipe (held ++ bytes) })
      | _ => some (.ok (), kernel)

end Transfer

section Files

/-- What stands under a path. -/
def viewPath (kernel : Kernel τ) (process : Process τ) (path : String) :
    Except IoError FileView := do
  let (place, entry) ← kernel.files.look (process.absolute path)
  match entry with
  | .directory => return .directory ((kernel.files.children place).map Text.toOctets)
  | .file content executable => return .file content.size executable
  | .program _ => return .file pipeLimit true
  | .opened number =>
    match (process.openFile? number).bind fun file => kernel.opened[file]? with
    | none => throw .notFound
    | some file =>
      match file.outlet with
      | .place place =>
        match kernel.files.entry? place with
        | some (.file content executable) => return .file content.size executable
        | _ => return .device
      | _ => return .device
  | _ => return .device

/-- Changes the files. -/
def changeFiles (files : FileTree) (absolute : String → String) :
    FileChange → Except IoError FileTree
  | .makeDirectory path => files.makeDirectory (absolute path)
  | .removeDirectory path => files.removeDirectory (absolute path)
  | .removeFile path => files.removeFile (absolute path)
  | .move path other => files.move (absolute path) (absolute other)
  | .setExecutable path executable => do
    match ← files.look (absolute path) with
    | (place, .file content _) => return files.put place (.file content executable)
    | _ => return files

/-- What an executable file asks to be run by: a path, and perhaps one more word. -/
def interpreter? (content : ByteArray) : Option (String × List String) :=
  match (Text.octets (content.extract 0 256)).toList with
  | '#' :: '!' :: rest =>
    let isSpace (char : Char) : Bool := char == ' ' || char == '\t'
    let line := (rest.takeWhile (· != '\n')).dropWhile isSpace
    let path := line.takeWhile (!isSpace ·)
    let word := ((line.dropWhile (!isSpace ·)).dropWhile isSpace).reverse.dropWhile isSpace
    if path.isEmpty then none
    else some (String.ofList path,
      if word.isEmpty then [] else [String.ofList word.reverse])
  | _ => none

/-- The program under a path, and the words it is run with. -/
def programAt (kernel : Kernel τ) (process : Process τ) (path : String) (words : List String) :
    Except IoError (String × List String) := do
  let (_, entry) ← kernel.files.look (process.absolute path)
  match entry with
  | .program name => return (name, words)
  | .file content true =>
    match interpreter? content with
    | none => throw .notExecutable
    | some (other, option) =>
      match ← kernel.files.look (process.absolute other) with
      | (_, .program name) => return (name, other :: option ++ path :: words.tail)
      | _ => throw .permissionDenied
  | _ => throw .permissionDenied

end Files

section Calls

/-- Starts a child with a task. -/
def fork (system : System τ) (kernel : Kernel τ) (pid : Nat) (task : τ) : Nat × Kernel τ :=
  match kernel.processes[pid]? with
  | none => (0, kernel)
  | some process =>
    let child := { process with
      parent := pid, activity := system.begin task, arriving := [], noticed := [], wakes := none }
    (kernel.nextPid, { kernel with
      processes := kernel.processes.insert kernel.nextPid child
      nextPid := kernel.nextPid + 1 })

/-- What a process learns that waits for a child; `none` as long as it has to wait. -/
def awaitChild (kernel : Kernel τ) (pid : Nat) (process : Process τ) (waiting : Waiting) :
    Option (Waited × Kernel τ) :=
  let children := kernel.children pid
  if children.isEmpty then some (.childless, kernel)
  else
    match children.findSome? fun (child, process) => process.ending.map (child, ·) with
    | some (child, ending) =>
      some (.ended child ending, { kernel with processes := kernel.processes.erase child })
    | none =>
      match waiting with
      | .never => some (.running, kernel)
      | .steadily => none
      | .untilSignal => if process.noticed.isEmpty then none else some (.interrupted, kernel)

/-- What a call leads to. -/
inductive Reply (τ : Type) (α : Type) where
  | answered (answer : α) (kernel : Kernel τ)
  /-- The process has to wait. -/
  | waits (kernel : Kernel τ)
  /-- The process does something else from now on. -/
  | replaced (kernel : Kernel τ)

/-- A call that is answered at once. -/
def Reply.now (outcome : α × Kernel τ) : Reply τ α := .answered outcome.1 outcome.2

/-- A call that may have to wait. -/
def Reply.later (kernel : Kernel τ) : Option (α × Kernel τ) → Reply τ α
  | some outcome => .now outcome
  | none => .waits kernel

/-- What a call of a process leads to. -/
def perform (system : System τ) (kernel : Kernel τ) (pid : Nat) (process : Process τ) :
    (call : Call τ) → Reply τ call.Answer
  | .open path mode => .now (kernel.openPath pid process path mode)
  | .close number =>
    .answered () (kernel.update pid fun process => { process with
      descriptors := process.descriptors.filter (·.number != number) })
  | .duplicate source target =>
    match process.openFile? source with
    | none => .answered (.error .badDescriptor) kernel
    | some file =>
      if source = target then .answered (.ok ()) kernel
      else .answered (.ok ()) (kernel.update pid (·.withDescriptor ⟨target, file, false⟩))
  | .keep source =>
    match process.openFile? source with
    | none => .answered (.error .badDescriptor) kernel
    | some file =>
      let number := process.freeDescriptor 10
      .answered (.ok number) (kernel.update pid (·.withDescriptor ⟨number, file, true⟩))
  | .pipe =>
    let pipe := kernel.pipes.size
    let kernel := { kernel with pipes := kernel.pipes.push .empty }
    let (start, kernel) := kernel.openOutlet pid (.pipeStart pipe) .reading 0
    let (finish, kernel) := kernel.openOutlet pid (.pipeEnd pipe) .replacing 0
    .answered (start, finish) kernel
  | .read number limit =>
    match process.openFile? number with
    | none => .answered (.error .badDescriptor) kernel
    | some file => .later kernel (kernel.readFile file limit)
  | .write number bytes =>
    match process.openFile? number with
    | none => .answered (.error .badDescriptor) kernel
    | some file => .later kernel (kernel.writeFile pid file bytes)
  | .view path => .answered (kernel.viewPath process path) kernel
  | .change change =>
    match changeFiles kernel.files process.absolute change with
    | .ok files => .answered (.ok ()) { kernel with files }
    | .error error => .answered (.error error) kernel
  | .enter directory =>
    match kernel.files.look (process.absolute directory) with
    | .ok (place, .directory) => .answered (.ok ())
        (kernel.update pid fun process => { process with directory := place })
    | .ok _ => .answered (.error .notADirectory) kernel
    | .error error => .answered (.error error) kernel
  | .whereabouts => .answered (Text.toOctets ("/" ++ process.directory)) kernel
  | .identity => .answered (pid, process.parent) kernel
  | .fork task => .now (kernel.fork system pid task)
  | .execute path words environment =>
    match kernel.programAt process path words with
    | .error error => .answered error kernel
    | .ok (name, words) => .replaced (kernel.update pid fun process => { process with
        activity := system.begin (system.program name words environment)
        descriptors := process.descriptors.filter (!·.isPrivate)
        arrangements := process.arrangements.filter (·.2 != .caught)
        noticed := [] })
  | .wait waiting => .later kernel (kernel.awaitChild pid process waiting)
  | .send target signal =>
    if !kernel.processes.contains target then .answered (.error .noSuchProcess) kernel
    else if signal.number = 0 then .answered (.ok ()) kernel
    else .answered (.ok ()) (kernel.send target signal)
  | .arrange signal arrangement =>
    .answered (process.arrangement signal) (kernel.update pid (·.arrange signal arrangement))
  | .notices => .answered process.noticed
      (kernel.update pid fun process => { process with noticed := [] })
  | .sleep milliseconds =>
    let wakes := process.wakes.getD (kernel.clock + milliseconds)
    if wakes ≤ kernel.clock then
      .answered () (kernel.update pid fun process => { process with wakes := none })
    else .waits (kernel.update pid fun process => { process with wakes := some wakes })

/-- A signal reaches a process. -/
def receive (kernel : Kernel τ) (pid : Nat) (process : Process τ) (signal : Signal) : Kernel τ :=
  let taken := kernel.update pid fun process => { process with
    arriving := process.arriving.erase signal }
  match process.arrangement signal, signal.effect with
  | .caught, _ => taken.update pid fun process => { process with
      noticed := process.noticed.filter (· != signal) ++ [signal] }
  | .standard, .ends => taken.finish pid (.killed signal)
  | .standard, .stops => taken.update pid fun process => { process with stopped := true }
  | _, _ => taken

/-- Lets a process do one thing; the answer tells whether it could. A process that is stopped only
takes the signal that nothing withstands. -/
def step (system : System τ) (kernel : Kernel τ) (pid : Nat) : Kernel τ × Bool :=
  match kernel.processes[pid]? with
  | none => (kernel, false)
  | some process =>
    if process.ending.isSome then (kernel, false)
    else if process.arriving.contains Signal.kill then
      (kernel.receive pid process Signal.kill, true)
    else if process.stopped then (kernel, false)
    else
      match process.arriving, process.activity with
      | signal :: _, _ => (kernel.receive pid process signal, true)
      | [], .done status => (kernel.finish pid (.exited status), true)
      | [], .ask call next =>
        match perform system kernel pid process call with
        | .answered answer kernel =>
          (kernel.update pid fun process => { process with activity := next answer }, true)
        | .replaced kernel => (kernel, true)
        | .waits kernel => (kernel, false)

end Calls

end Kernel

end TrainingLauncher.Rehearsal
