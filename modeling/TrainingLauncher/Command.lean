/-
The program that runs in every process of the job, with its arguments.
-/

import TrainingLauncher.Text.Blank

namespace TrainingLauncher

/-- A program and its arguments. -/
structure Command where
  program : String
  arguments : List String
  deriving DecidableEq, Repr

namespace Command

/-- The command with these words; the first is the program. -/
def ofWords (first : String) (others : List String) : Command := ⟨first, others⟩

/-- The command that runs a script, through an interpreter if there is one. -/
def ofScript (interpreter : Option String) (script : String) (arguments : List String) : Command :=
  match interpreter with
  | some program => ⟨program, script :: arguments⟩
  | none => ⟨script, arguments⟩

/-- Every word of the command, the program first. -/
def words (command : Command) : List String := command.program :: command.arguments

/-- The command in words, with a space between them. -/
def text (command : Command) : String :=
  command.arguments.foldl (fun shown argument => shown ++ " " ++ argument) command.program

end Command

end TrainingLauncher
