/-
The commands of a shell that print their arguments or judge them.
-/

import TrainingLauncher.Rehearsal.Shell.BuiltIn
import TrainingLauncher.Rehearsal.Tool.Condition
import TrainingLauncher.Rehearsal.Tool.Printing

namespace TrainingLauncher.Rehearsal.Shell

/-- Prints words. -/
def echoWords : BuiltIn := fun words => return ⟨0, Tool.echoed .shell words⟩

/-- Prints by a pattern. -/
def printPattern : BuiltIn := fun words => do
  match ← withoutOptions words with
  | [] => refuse "usage: printf format [arg ...]"
  | pattern :: arguments =>
    let printed := Tool.formatted .shell pattern arguments
    printed.complaints.forM complain
    return ⟨printed.status, printed.text⟩

/-- Tells by the status whether a condition holds. -/
def testCondition (name : String) : BuiltIn := fun words => do
  match ← doing (Tool.examine name words) with
  | .ok holds => return .silent (if holds then 0 else 1)
  | .error fault =>
    complain (fault.message .shell words)
    return .silent misuse

/-- Ends with a status, whatever the arguments. -/
def constantStatus (status : Nat) : BuiltIn := fun _ => return .silent status

end TrainingLauncher.Rehearsal.Shell
