/-
Carrying out a command line: what it prints, what it stores, and the exit code it ends with.
-/

import TrainingLauncher.CommandLine.Invocation
import TrainingLauncher.Job
import TrainingLauncher.Json.Cluster
import TrainingLauncher.Toml.Defaults

namespace TrainingLauncher.CommandLine

/-- Why a command line that is understood was not carried out. -/
inductive Failure where
  | launch (error : LaunchError)
  /-- The defaults could not be stored. -/
  | save (source : IoError)
  /-- There is no place to store defaults. -/
  | noConfigDirectory
  /-- The job was still running after the last pass of its supervision. -/
  | unfinished
  deriving DecidableEq, Repr

namespace Failure

/-- The exit code. -/
def exitCode : Failure → Nat
  | launch error => error.exitCode
  | _ => 1

/-- An error in words, followed by the words of the refusal behind it. -/
def explained (error : LaunchError) : String :=
  match error with
  | .spawn _ source | .io source => error.message ++ ": " ++ source.text
  | _ => error.message

/-- What the operator is told, line by line. -/
def complaint : Failure → List String
  | launch (.roleProcessFailure failed nranks) =>
    s!"job of {nranks} trainers failed" :: failed.map fun one => "  " ++ one.text
  | launch .interrupted => ["job interrupted"]
  | launch error => [explained error]
  | save source => [s!"failed to save config file: IO error: {source.text}: {source.text}"]
  | noConfigDirectory => ["failed to save config file: no config directory available"]
  | unfinished => ["job unfinished"]

end Failure

namespace Stored

/-- The home directory: the one the environment names, else that of the account. -/
def home? (node : Node) : Option String :=
  match node.environment["HOME"]? with
  | some named => if named.isEmpty then node.accountHome else some named
  | none => node.accountHome

/-- The directory for configuration: the one the environment names, if its path is absolute, else
one in the home directory. -/
def directory? (node : Node) : Option String :=
  let usual := (home? node).map (joinPath · ".config")
  match node.environment["XDG_CONFIG_HOME"]? with
  | some named => if named.startsWith '/' then some named else usual
  | none => usual

/-- The directory of the file that holds the defaults. -/
def ownDirectory? (node : Node) : Option String := (directory? node).map (joinPath · "fleetrun")

/-- The file that holds the defaults. -/
def path? (node : Node) : Option String := (ownDirectory? node).map (joinPath · "config.toml")

/-- Reads the stored defaults. Without a file there are none; a file that cannot be read or
understood is ignored, and the operator is told. -/
def load (node : Node) : Program Defaults := do
  let ignored (reason : String) : Program Defaults := do
    Program.request (.complain ("Ignoring config file: " ++ reason))
    return .empty
  match path? node with
  | none => return .empty
  | some path =>
    if ← Program.request (.fileExists path) then
      match ← Program.request (.readFile path) with
      | .error error => ignored ("IO error: " ++ error.text)
      | .ok text =>
        match Toml.defaults? text with
        | some defaults => return defaults
        | none => ignored "parse error"
    else return .empty

/-- Stores defaults; the answer is the path of the file. -/
def save (node : Node) (defaults : Defaults) : Program (Except Failure String) := do
  match ownDirectory? node, path? node with
  | some directory, some path =>
    match ← Program.request (.createDirectory directory) with
    | .error error => return .error (.save error)
    | .ok () =>
      match ← Program.request (.writeFile path (Toml.written defaults)) with
      | .error error => return .error (.save error)
      | .ok () => return .ok path
  | _, _ => return .error .noConfigDirectory

end Stored

namespace Invocation

/-- Shows the stored defaults with the options on top, or stores them. -/
def runConfig (invocation : Invocation) (stored : Defaults) (node : Node) (save : Bool) :
    Program (Except Failure Unit) := do
  let defaults := invocation.defaults stored
  if save then
    match ← Stored.save node defaults with
    | .error failure => return .error failure
    | .ok path =>
      Program.request (.print s!"Saved config to: {path}\n")
      return .ok ()
  else
    if let some path := Stored.path? node then
      Program.request (.print s!"# {path}\n")
    Program.request (.print (Toml.written defaults))
    return .ok ()

/-- Shows the cluster of a job. -/
def runTopology (config : LaunchConfig) (node : Node) : Program (Except Failure Unit) := do
  match ← Program.ofNoted (config.topology node) with
  | .error error => return .error (.launch error)
  | .ok (cluster, index) =>
    Program.request (.print ((cluster.toJsonWith index).pretty "" ++ "\n"))
    return .ok ()

/-- Runs a job, which the operator may interrupt, in the environment of the launcher. -/
def runJob (config : LaunchConfig) (node : Node) (passes : Nat) :
    Program (Except Failure Unit) := do
  let context : JobContext := {
    node
    base := node.environment
    watchdog := {
      interval := Supervision.standardInterval
      termination := .standard
      interruptible := true } }
  match ← (Job.launch config context passes).run with
  | .ok () => return .ok ()
  | .error (.failed error) => return .error (.launch error)
  | .error .unfinished => return .error .unfinished

/-- Carries out what is asked for. -/
def run (invocation : Invocation) (stored : Defaults) (node : Node) (passes : Nat) :
    Program (Except Failure Unit) :=
  match invocation.action, invocation.launchConfig? stored with
  | .config save, _ => invocation.runConfig stored node save
  | .topology, some config => runTopology config node
  | .launch _ _, some config => runJob config node passes
  | _, none => pure (.ok ())

end Invocation

/-- Tells the operator lines. -/
def complainAll : List String → Program Unit
  | [] => pure ()
  | line :: rest => do
    Program.request (.complain ("fleetrun: " ++ line))
    complainAll rest

/-- Carries out the words of a command line on a node; the answer is the exit code. -/
def execute (words : List String) (node : Node) (passes : Nat) : Program Nat := do
  match Invocation.ofWords words node.environment with
  | .error fault => return fault.exitCode
  | .ok invocation =>
    let stored ← Stored.load node
    match ← invocation.run stored node passes with
    | .ok () => return 0
    | .error failure =>
      complainAll failure.complaint
      return failure.exitCode

end TrainingLauncher.CommandLine
