/-
Programs that tell who runs them, and on what.
-/

import TrainingLauncher.Rehearsal.Tool.Usage

namespace TrainingLauncher.Rehearsal.Tool

/-- The name of the one user that every machine has. -/
def userName : String := "root"

/-- Tells the name of the user. -/
def whoami : Body τ := reading "" "" [] false 1 fun arguments usage => do
  match operands arguments with
  | [] =>
    print (userName ++ "\n")
    return 0
  | word :: _ => usage.refuseWithHelp 1 ("extra operand " ++ quotedName word)

/-- The user and the groups of the user, which all have the number zero. -/
def identity : String :=
  Text.joined " " (["uid", "gid", "groups"].map fun kind => kind ++ "=0(" ++ userName ++ ")")

/-- Tells the user and the groups of the user, or one of them. -/
def ident : Body τ :=
  reading "ugGnr" "" [("user", 'u'), ("group", 'g'), ("groups", 'G'), ("name", 'n'), ("real", 'r')]
    false 1 fun arguments usage => do
      let chosen := ['u', 'g', 'G'].filter fun letter => hasLetter letter arguments
      let named := hasLetter 'n' arguments
      match (operands arguments).filter (· != userName), chosen with
      | word :: _, _ => usage.refuse 1 (quotedName word ++ ": no such user")
      | [], [] =>
        if named || hasLetter 'r' arguments then
          usage.refuse 1 "printing only names or real IDs requires -u, -g, or -G"
        else
          print (identity ++ "\n")
          return 0
      | [], [_] =>
        print ((if named then userName else "0") ++ "\n")
        return 0
      | [], _ => usage.refuse 1 "cannot print \"only\" of more than one choice"

/-- Tells what system the machine has. -/
def uname : Body τ := reading "so" "" [("kernel-name", 's'), ("operating-system", 'o')] false 1
    fun arguments usage => do
  match operands arguments with
  | [] =>
    let whole := !hasLetter 'o' arguments || hasLetter 's' arguments
    let words := (if whole then ["Linux"] else []) ++
      (if hasLetter 'o' arguments then ["GNU/Linux"] else [])
    print (Text.joined " " words ++ "\n")
    return 0
  | word :: _ => usage.refuseWithHelp 1 ("extra operand " ++ quotedName word)

end TrainingLauncher.Rehearsal.Tool
