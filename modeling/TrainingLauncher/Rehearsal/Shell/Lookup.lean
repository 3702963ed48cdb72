/-
What the name of a command stands for: a word with a meaning of its own, a function, something the
shell does itself, or a program in one of the directories of the search path.
-/

import TrainingLauncher.Rehearsal.Shell.BuiltIn
import TrainingLauncher.Rehearsal.Shell.Grammar

namespace TrainingLauncher.Rehearsal.Shell

section Programs

/-- The search path, if no variable tells it. -/
def standardSearchPath : String :=
  "/usr/local/sbin:/usr/local/bin:/usr/sbin:/usr/bin:/sbin:/bin"

/-- The paths of a command: itself, or what it is called in the directories of a search path. -/
def pathsOf (searchPath name : String) : List String :=
  if name.contains '/' then [name]
  else
    (Text.pieces (· == ':') searchPath.toList).map fun directory =>
      if directory.isEmpty then name else String.ofList directory ++ "/" ++ name

/-- The search path of a shell. -/
def State.searchPath (state : State) : String := (state.value? "PATH").getD ""

/-- Why a command cannot be found or run. -/
def launchWords (error : IoError) : String :=
  if error.kind = .notFound || error.kind = .notADirectory then "not found"
  else refusalWords error

/-- The paths from the first file on. -/
def fromFirstFile (refusal : IoError) : List String → Conduct (Except IoError (List String))
  | [] => return .error refusal
  | path :: rest => do
    match ← ask (.view path) with
    | .ok (.file _ _) => return .ok (path :: rest)
    | .ok _ => fromFirstFile .permissionDenied rest
    | .error error =>
      let isMissing := error.kind = .notFound || error.kind = .notADirectory
      fromFirstFile (if isMissing then refusal else error) rest

/-- The paths where a command may be, from the first one where there is a file. -/
def findProgram (searchPath name : String) : Conduct (Except IoError (List String)) := do
  let paths := pathsOf searchPath name
  if name.contains '/' then return .ok paths else fromFirstFile .notFound paths

/-- Runs a program in place of what a process does, from the first of some paths where there is one.
A file that is no program is a script for a shell. -/
def tryPaths (words environment : List String) (refusal : IoError) :
    List String → Activity Task IoError
  | [] => return refusal
  | path :: rest => do
    let error ← Activity.call (.execute path words environment)
    let error ←
      if error = .notExecutable then
        Activity.call (.execute "/bin/sh" ("/bin/sh" :: path :: words.tail) environment)
      else pure error
    let isMissing := error.kind = .notFound || error.kind = .notADirectory
    tryPaths words environment (if isMissing then refusal else error) rest

/-- Runs a program in place of what a process does, or tells why it cannot be run. -/
def Launch.run (launch : Launch) : Activity Task Nat := do
  let error ← tryPaths launch.words launch.environment .notFound launch.paths
  Tool.complain (launch.complaint error)
  let isMissing := error.kind = .notFound || error.kind = .notADirectory ||
    error.kind = .invalidFilename
  return if isMissing then 127 else 126

end Programs

section Names

/-- The commands that can have functions in their place. -/
def ordinaryCommands : List String := [
  "[", "cd", "chdir", "command", "echo", "false", "getopts", "hash", "jobs", "kill", "printf",
  "pwd", "read", "test", "true", "type", "ulimit", "umask", "wait"]

/-- What a command may be. -/
inductive Meaning where
  | keyword
  | function
  | special
  | builtIn
  | program (path : String)

/-- What the name of a command stands for. -/
def meaning? (name : String) : Conduct (Option Meaning) := do
  let state ← get
  if keywords.contains name then return some .keyword
  else if (state.functions.lookup name).isSome then return some .function
  else if specialCommands.contains name then return some .special
  else if ordinaryCommands.contains name then return some .builtIn
  else
    match ← fromFirstFile .notFound (pathsOf state.searchPath name) with
    | .ok (path :: _) => return some (.program path)
    | _ => return none

/-- Tells what a name stands for. -/
def describe (name : String) : Conduct (Nat × String) := do
  match ← meaning? name with
  | some .keyword => return (0, name ++ " is a shell keyword\n")
  | some .function => return (0, name ++ " is a shell function\n")
  | some .special => return (0, name ++ " is a special shell builtin\n")
  | some .builtIn => return (0, name ++ " is a shell builtin\n")
  | some (.program path) => return (0, name ++ " is " ++ path ++ "\n")
  | none => return (127, name ++ ": not found\n")

/-- Tells what names stand for. -/
def describeAll : BuiltIn := fun names => do
  let described ← names.mapM describe
  return ⟨(described.map (·.1)).foldl (· ||| ·) 0, String.join (described.map (·.2))⟩

/-- Tells how a command would be called, or what it is. -/
def tellCommand : BuiltIn := fun words => do
  let (letters, names) ← options "pvV" words
  match names with
  | [] => return .silent 0
  | name :: _ =>
    if letters.getLast?.any (·.1 == 'V') then
      let (status, text) ← describe name
      return ⟨status, text⟩
    else
      match ← meaning? name with
      | some (.program path) => return .line path
      | some _ => return .line name
      | none => return .silent 127

/-- Looks for commands. -/
def findCommands : BuiltIn := fun words => do
  let (_, names) ← options "rv" words
  let found ← names.mapM fun name => do
    if (← meaning? name).isSome then return true
    else
      complain (name ++ ": not found")
      return false
  return .silent (if found.all id then 0 else 1)

end Names

end TrainingLauncher.Rehearsal.Shell
