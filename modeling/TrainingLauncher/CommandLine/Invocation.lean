/-
What a command line asks for, once its words are understood, and which settings it makes of the
stored defaults.
-/

import TrainingLauncher.CommandLine.Scan
import TrainingLauncher.Environment

namespace TrainingLauncher.CommandLine

/-- What the launcher is to do, with all that is needed for it. -/
inductive Action where
  /-- Run a job. -/
  | launch (script : String) (arguments : List String)
  /-- Show the cluster of a job. -/
  | topology
  /-- Show the stored defaults, or replace them. -/
  | config (save : Bool)
  deriving DecidableEq, Repr

/-- The subcommand of an action. -/
def Action.subcommand : Action → Subcommand
  | launch _ _ => .launch
  | topology => .topology
  | config _ => .config

/-- A command line that is understood. -/
structure Invocation where
  logLevel : Option String
  options : Options
  action : Action
  deriving DecidableEq, Repr

namespace Invocation

/-- The variable that stands in for the option of the first port. -/
def startPortVariable : String := "FLAGS_START_PORT"

/-- Options that are not given and have a variable that stands in for them. -/
def withVariables (options : Options) (environment : Environment) : Except UsageFault Options :=
  match options.stored.startPort, environment[startPortVariable]? with
  | none, some word => options.set .startPort word
  | _, _ => .ok options

/-- The options and the action that the words of a subcommand ask for. -/
def ofSubcommand (subcommand : Subcommand) (words : List String) (environment : Environment) :
    Except UsageFault (Options × Action) := do
  match ← scan (some subcommand) .start words with
  | .subcommand _ _ _ => .error .unknownArgument
  | .finished progress =>
    let resolved ← progress.resolve
    let options ← withVariables resolved.options environment
    match subcommand, resolved.script with
    | .launch, none => .error .missingArgument
    | .launch, some script => return (options, .launch script resolved.arguments)
    | .topology, _ => return (options, .topology)
    | .config, _ => return (options, .config options.save)

/-- The outcome of asking for help, on the launcher or on a subcommand. -/
def helpFault : List String → UsageFault
  | [] => .helpAsked
  | [word] => if Subcommand.isName word then .helpAsked else .unknownSubcommand
  | _ => .unknownSubcommand

/-- Understands the words of a command line. Faults in the words of a subcommand come before those
in the words before it; for the level of detail in the log, the later word counts. -/
def ofWords (words : List String) (environment : Environment) : Except UsageFault Invocation := do
  match ← scan none .start words with
  | .finished progress =>
    let resolved ← progress.resolve
    .error (if resolved.options.stored.logLevel.isNone then .nothingGiven else .missingSubcommand)
  | .subcommand word rest progress =>
    match Subcommand.ofName? word with
    | none => .error (helpFault rest)
    | some subcommand =>
      let (options, action) ← ofSubcommand subcommand rest environment
      let resolved ← progress.resolve
      return {
        logLevel := options.stored.logLevel.or resolved.options.stored.logLevel
        options, action }

/-- The stored defaults with the options on top. The level of detail in the log is stored only
together with other defaults, never taken over into a job. -/
def defaults (invocation : Invocation) (stored : Defaults) : Defaults :=
  stored.merge <| invocation.options.asDefaults <|
    match invocation.action with
    | .config _ => invocation.logLevel
    | _ => none

/-- The job that is asked for, if there is one. To show its cluster, a job needs no script. -/
def launchConfig? (invocation : Invocation) (stored : Defaults) : Option LaunchConfig :=
  let defaults := invocation.defaults stored
  match invocation.action with
  | .launch script arguments => some (invocation.options.launchConfig defaults script arguments)
  | .topology => some (invocation.options.launchConfig defaults "" [])
  | .config _ => none

end Invocation

end TrainingLauncher.CommandLine
