/-
The programs that every machine has, and how tasks begin.
-/

import TrainingLauncher.Rehearsal.Process.Kernel
import TrainingLauncher.Rehearsal.Shell.Session
import TrainingLauncher.Rehearsal.Tool.Calculation
import TrainingLauncher.Rehearsal.Tool.Control
import TrainingLauncher.Rehearsal.Tool.Edit
import TrainingLauncher.Rehearsal.Tool.Files
import TrainingLauncher.Rehearsal.Tool.Identity
import TrainingLauncher.Rehearsal.Tool.Lines
import TrainingLauncher.Rehearsal.Tool.Search

namespace TrainingLauncher.Rehearsal

namespace Tool

/-- A shell. -/
def shell : Body Task := fun usage =>
  Shell.session (usage.name :: usage.arguments) usage.environment

/-- Every program, by its name. -/
def catalogue : List (String × Body Task) := [
  ("[", test), ("basename", basename), ("bash", shell), ("cat", cat), ("chmod", chmod), ("cp", cp),
  ("cut", cut), ("dash", shell), ("dirname", dirname), ("echo", echo), ("egrep", grepExtended),
  ("env", env), ("expr", expr), ("false", constant 1), ("fgrep", grepFixed), ("grep", grep),
  ("head", head), ("id", ident), ("kill", kill), ("ls", ls), ("mkdir", mkdir), ("mktemp", mktemp),
  ("mv", mv), ("nice", nice), ("nohup", nohup), ("printenv", printenv), ("printf", printf),
  ("pwd", pwd),
  ("rev", rev), ("rm", rm), ("rmdir", rmdir), ("sed", sed), ("seq", seq), ("sh", shell),
  ("sleep", sleep), ("sort", sort), ("tac", tac), ("tail", tail), ("tee", tee), ("test", test),
  ("timeout", timeout), ("touch", touch), ("tr", tr), ("true", constant 0),
  ("uname", uname), ("uniq", uniq), ("wc", wc), ("which", which), ("whoami", whoami),
  ("xargs", xargs), ("yes", yes)]

end Tool

/-- How a task begins. -/
def Task.begin : Task → Activity Task Nat
  | .program name words environment =>
    match Tool.catalogue.lookup name with
    | some body => body ⟨words.headD name, words.tail, environment⟩
    | none => return 127
  | .script state body start => Shell.liveApart state body start
  | .launch wanted => wanted.run

/-- The system on which programs are run and shells fork. -/
def system : System Task := ⟨Task.begin, .program⟩

end TrainingLauncher.Rehearsal
