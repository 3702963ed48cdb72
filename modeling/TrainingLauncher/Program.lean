/-
What the launcher asks of the machine it runs on, and programs made of such requests. A program is
a tree: it is done, or it asks and goes on with whatever the answer is. A host answers requests from
a state of its own; nothing is assumed of its answers.

The processes that a program starts are its children. The program numbers them itself, in the order
in which they start, and names them by their numbers.
-/

import TrainingLauncher.Command
import TrainingLauncher.Environment
import TrainingLauncher.Noted

namespace TrainingLauncher

/-- Where the output of a child goes. -/
inductive Output where
  /-- To the launcher's own output. -/
  | inherit
  /-- To the end of a log file. -/
  | file (path : String)
  deriving DecidableEq, Repr

/-- Why bytes are not taken, and how many of them were taken by then. -/
structure Refusal where
  taken : Nat
  error : IoError
  deriving DecidableEq, Repr

/-- A request to the machine. -/
inductive Request where
  /-- Tells the operator something. -/
  | report (note : Note)
  | sleep (milliseconds : Nat)
  /-- Has the operator asked the launcher to stop? -/
  | interrupted
  /-- Creates a directory and those above it, as far as they are missing. -/
  | createDirectory (path : String)
  /-- Replaces the content of a file, which is created if it is missing. -/
  | writeFile (path content : String)
  /-- Does anything stand under a path? What cannot be found out does not. -/
  | fileExists (path : String)
  /-- Reads a file as text. -/
  | readFile (path : String)
  /-- Opens a log file for appending; it is created if it is missing. The answer is its length. -/
  | openLog (path : String)
  /-- Reads at most `limit` bytes of a file, from `offset` on. -/
  | readLog (path : String) (offset limit : Nat)
  /-- Hands bytes to the observer of the job, which may take some of them and refuse the rest. -/
  | forward (bytes : ByteArray)
  | flushObserver
  /-- Writes to the launcher's own output. -/
  | print (text : String)
  /-- Writes a line to where the launcher's complaints go. -/
  | complain (line : String)
  /-- Creates a fresh directory whose name starts with `stem`; the answer is its path. -/
  | createRendezvous (stem : String)
  /-- Removes a directory with everything in it. -/
  | removeRendezvous (directory : String)
  /-- Starts the child of this number; the answer is its process id. -/
  | spawn (child : Nat) (command : Command) (environment : Environment) (output : Output)
  /-- The exit code of a child, `none` while it runs; a child that a signal ended has the negative
  number of the signal. -/
  | poll (child : Nat)
  /-- Asks a child to stop. -/
  | terminate (child : Nat)
  /-- Stops a child. -/
  | kill (child : Nat)
  /-- Waits until a child ends; the answer is its exit code. -/
  | wait (child : Nat)

/-- What a request is answered with. -/
abbrev Request.Answer : Request → Type
  | report _ => Unit
  | sleep _ => Unit
  | interrupted => Bool
  | createDirectory _ => Except IoError Unit
  | writeFile _ _ => Except IoError Unit
  | fileExists _ => Bool
  | readFile _ => Except IoError String
  | openLog _ => Except IoError Nat
  | readLog _ _ _ => Except IoError ByteArray
  | forward _ => Except Refusal Unit
  | flushObserver => Except IoError Unit
  | print _ => Unit
  | complain _ => Unit
  | createRendezvous _ => Except IoError String
  | removeRendezvous _ => Except IoError Unit
  | spawn _ _ _ _ => Except IoError Nat
  | poll _ => Except IoError (Option Int)
  | terminate _ => Except IoError Unit
  | kill _ => Except IoError Unit
  | wait _ => Except IoError Int

/-- A computation that asks things of the machine. -/
inductive Program (α : Type) where
  | done (value : α)
  | ask (request : Request) (next : request.Answer → Program α)

/-- A machine that answers requests from a state. -/
structure Host (σ : Type) where
  answer : (request : Request) → σ → request.Answer × σ

namespace Program

/-- Goes on with `next` once the first program is done. -/
def andThen : Program α → (α → Program β) → Program β
  | done value, next => next value
  | ask request rest, next => ask request fun answer => (rest answer).andThen next

instance : Monad Program where
  pure := done
  bind := andThen

/-- The program that asks once. -/
def request (request : Request) : Program request.Answer := ask request done

/-- Runs a program on a host. -/
def run (host : Host σ) : Program α → σ → α × σ
  | done value, state => (value, state)
  | ask request next, state =>
    let (answer, state) := host.answer request state
    (next answer).run host state

/-- One request and its answer. -/
structure Exchange where
  request : Request
  answer : request.Answer

/-- A program can end with a value after these exchanges, on some machine. -/
inductive Runs : Program α → List Exchange → α → Prop
  | done (value : α) : Runs (done value) [] value
  | ask (request : Request) (next : request.Answer → Program α) (answer : request.Answer)
      (exchanges : List Exchange) (value : α) (rest : Runs (next answer) exchanges value) :
      Runs (ask request next) (⟨request, answer⟩ :: exchanges) value

section Laws

theorem andThen_done (program : Program α) : program.andThen done = program := by
  induction program with
  | done value => rfl
  | ask request next ih => rw [andThen]; congr 1; funext answer; exact ih answer

theorem andThen_assoc (program : Program α) (first : α → Program β) (second : β → Program γ) :
    (program.andThen first).andThen second =
      program.andThen fun value => (first value).andThen second := by
  induction program with
  | done value => rfl
  | ask request next ih => simp only [andThen]; congr 1; funext answer; exact ih answer

instance : LawfulMonad Program := LawfulMonad.mk'
  Program
  (fun program => andThen_done program)
  (fun _ _ => rfl)
  (fun program first second => andThen_assoc program first second)

@[simp] theorem run_pure (host : Host σ) (value : α) (state : σ) :
    (pure value : Program α).run host state = (value, state) := rfl

/-- The two parts of a sequence run one after the other. -/
@[simp] theorem run_bind (host : Host σ) (program : Program α) (next : α → Program β) (state : σ) :
    (program >>= next).run host state =
      (next (program.run host state).1).run host (program.run host state).2 := by
  show (program.andThen next).run host state = _
  induction program generalizing state with
  | done value => rfl
  | ask request rest ih => exact ih _ _

@[simp] theorem run_request (host : Host σ) (asked : Request) (state : σ) :
    (request asked).run host state = host.answer asked state := rfl

/-- What a sequence does is what its parts do, one after the other. -/
theorem runs_bind (program : Program α) (next : α → Program β) (exchanges : List Exchange)
    (value : β) :
    Runs (program >>= next) exchanges value ↔
      ∃ first second middle, exchanges = first ++ second ∧ Runs program first middle ∧
        Runs (next middle) second value := by
  show Runs (program.andThen next) exchanges value ↔ _
  induction program generalizing exchanges with
  | done middle =>
    constructor
    · intro runs
      exact ⟨[], exchanges, middle, rfl, .done middle, runs⟩
    · rintro ⟨first, second, other, rfl, ran, runs⟩
      cases ran
      exact runs
  | ask request rest ih =>
    constructor
    · intro runs
      cases runs with
      | ask _ _ answer exchanges _ tail =>
        obtain ⟨first, second, middle, rfl, ran, runs⟩ := (ih answer exchanges).1 tail
        exact ⟨⟨request, answer⟩ :: first, second, middle, rfl, .ask _ _ _ _ _ ran, runs⟩
    · rintro ⟨first, second, middle, rfl, ran, runs⟩
      cases ran with
      | ask _ _ answer exchanges _ tail =>
        exact .ask _ _ answer _ _ ((ih answer _).2 ⟨exchanges, second, middle, rfl, tail, runs⟩)

end Laws

section Steps

/-- Tells the operator something. -/
def report (severity : Severity) (text : String) : Program Unit :=
  request (.report ⟨severity, text⟩)

/-- Reports notes one after the other. -/
def reportAll : List Note → Program Unit
  | [] => pure ()
  | note :: rest => do
    request (.report note)
    reportAll rest

/-- Reports what was noted and gives the result. -/
def ofNoted (noted : Noted α) : Program (Except LaunchError α) := do
  reportAll noted.notes
  return noted.result

end Steps

end Program

end TrainingLauncher
