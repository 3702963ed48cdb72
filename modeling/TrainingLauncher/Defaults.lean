/-
Stored defaults: settings that stand in for options that are not given.

* `Defaults.merge` — one set of defaults on top of another; what the upper one sets wins.
* `Defaults.applyTo` — a job description with every setting that is set put into it.
-/

import TrainingLauncher.LaunchConfig

namespace TrainingLauncher

/-- Settings, each of which may be left open. -/
structure Defaults where
  /-- How much the launcher tells about its own work. -/
  logLevel : Option String
  mode : Option DistributedMode
  logDir : Option String
  interpreter : Option String
  startPort : Option Port
  ips : Option String
  gpus : Option String
  heterWorkerDevice : Option DeviceKind
  deriving DecidableEq, Repr

namespace Defaults

/-- Nothing is set. -/
def empty : Defaults where
  logLevel := none
  mode := none
  logDir := none
  interpreter := none
  startPort := none
  ips := none
  gpus := none
  heterWorkerDevice := none

/-- The settings of `upper`, and those of `lower` that `upper` leaves open. -/
def merge (lower upper : Defaults) : Defaults where
  logLevel := upper.logLevel.or lower.logLevel
  mode := upper.mode.or lower.mode
  logDir := upper.logDir.or lower.logDir
  interpreter := upper.interpreter.or lower.interpreter
  startPort := upper.startPort.or lower.startPort
  ips := upper.ips.or lower.ips
  gpus := upper.gpus.or lower.gpus
  heterWorkerDevice := upper.heterWorkerDevice.or lower.heterWorkerDevice

/-- The description with the settings that are set; the others keep their values. -/
def applyTo (defaults : Defaults) (config : LaunchConfig) : LaunchConfig :=
  { config with
    mode := defaults.mode.getD config.mode
    logDir := defaults.logDir.or config.logDir
    interpreter := defaults.interpreter.or config.interpreter
    startPort := defaults.startPort.or config.startPort
    ips := defaults.ips.or config.ips
    gpus := defaults.gpus.or config.gpus
    heterWorkerDevice := defaults.heterWorkerDevice.getD config.heterWorkerDevice }

end Defaults

end TrainingLauncher
