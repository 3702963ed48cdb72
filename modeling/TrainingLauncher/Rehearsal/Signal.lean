/-
The signals that processes send each other: their names, what they do to a process that has made no
arrangement for them, and how a shell reports a process that one has ended.
-/

namespace TrainingLauncher.Rehearsal

/-- A signal, by its number. -/
structure Signal where
  number : Nat
  deriving DecidableEq, Repr

namespace Signal

/-- What a signal does to a process that has made no arrangement for it. -/
inductive Effect where
  | ends
  | nothing
  | stops
  | continues
  deriving DecidableEq, Repr

/-- The numbers of the signals that have names, with those names, and the words for a process that
one of them has ended. -/
def table : List (Nat × String × String) := [
  (1, "HUP", "Hangup"), (2, "INT", "Interrupt"), (3, "QUIT", "Quit"),
  (4, "ILL", "Illegal instruction"), (5, "TRAP", "Trace/breakpoint trap"), (6, "ABRT", "Aborted"),
  (7, "BUS", "Bus error"), (8, "FPE", "Floating point exception"), (9, "KILL", "Killed"),
  (10, "USR1", "User defined signal 1"), (11, "SEGV", "Segmentation fault"),
  (12, "USR2", "User defined signal 2"), (13, "PIPE", "Broken pipe"), (14, "ALRM", "Alarm clock"),
  (15, "TERM", "Terminated"), (16, "16", "Stack fault"), (17, "CHLD", "Child exited"),
  (18, "CONT", "Continued"), (19, "STOP", "Stopped (signal)"), (20, "TSTP", "Stopped"),
  (21, "TTIN", "Stopped (tty input)"), (22, "TTOU", "Stopped (tty output)"),
  (23, "URG", "Urgent I/O condition"), (24, "XCPU", "CPU time limit exceeded"),
  (25, "XFSZ", "File size limit exceeded"), (26, "VTALRM", "Virtual timer expired"),
  (27, "PROF", "Profiling timer expired"), (28, "WINCH", "Window changed"),
  (29, "IO", "I/O possible"), (30, "PWR", "Power failure"), (31, "SYS", "Bad system call"),
  (32, "32", "Unknown signal 32"), (33, "33", "Unknown signal 33")]

/-- The first and the last of the signals that mean nothing by themselves. -/
def firstFree : Nat := 34

/-- The last signal. -/
def last : Nat := 64

def hangup : Signal := ⟨1⟩
def interrupt : Signal := ⟨2⟩
def quit : Signal := ⟨3⟩
def kill : Signal := ⟨9⟩
def brokenPipe : Signal := ⟨13⟩
def terminate : Signal := ⟨15⟩
def child : Signal := ⟨17⟩
def goOn : Signal := ⟨18⟩
def stop : Signal := ⟨19⟩

/-- The name of a signal. The free ones are named by how far they are from the first or the last. -/
def name (signal : Signal) : String :=
  match table.lookup signal.number with
  | some (name, _) => name
  | none =>
    let start := signal.number - firstFree
    let rest := last - signal.number
    if start = 0 then "RTMIN"
    else if start < 16 then "RTMIN+" ++ toString start
    else if rest = 0 then "RTMAX"
    else "RTMAX-" ++ toString rest

/-- The words for a process that a signal has ended. -/
def words (signal : Signal) : String :=
  match table.lookup signal.number with
  | some (_, words) => words
  | none => "Real-time signal " ++ toString (signal.number - firstFree)

/-- What a signal does to a process that has made no arrangement for it. -/
def effect (signal : Signal) : Effect :=
  match signal.number with
  | 17 | 23 | 28 => .nothing
  | 18 => .continues
  | 19 | 20 | 21 | 22 => .stops
  | _ => .ends

/-- Of the signals that have come, those of a lower rank reach a process first: the one that nothing
withstands, then those that tell about a fault in what it does itself. -/
def rank (signal : Signal) : Nat :=
  if signal = kill then 0
  else if [4, 5, 7, 8, 11, 31].contains signal.number then signal.number
  else last + signal.number

/-- A signal that stops a process and one that has it go on take each other back. -/
def revokes (signal other : Signal) : Bool :=
  match signal.effect, other.effect with
  | .stops, .continues | .continues, .stops => true
  | _, _ => false

/-- No arrangement can be made for these signals. -/
def isFinal (signal : Signal) : Bool := signal = kill || signal = stop

/-- Every signal, in the order of the numbers. -/
def all : List Signal := (List.range' 1 last).map fun number => ⟨number⟩

/-- The signal of a name, in letters of either case. -/
def ofName? (word : String) : Option Signal :=
  let word := String.ofList (word.toList.map Char.toUpper)
  all.find? (·.name == word)

end Signal

end TrainingLauncher.Rehearsal
