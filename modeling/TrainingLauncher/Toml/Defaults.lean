/-
Defaults as TOML documents: how a file of defaults is read and written. Keys that mean nothing to
the launcher do not matter; a setting that is left open has no line.
-/

import TrainingLauncher.Defaults
import TrainingLauncher.Toml.Document

namespace TrainingLauncher.Toml

section Reading

/-- The text that a value is. -/
def Value.text? : Value → Option String
  | .text value => some value
  | _ => none

/-- The port that a value is. -/
def Value.port? : Value → Option Port
  | .integer number =>
    if 0 ≤ number ∧ number ≤ Decimal.limit16 then some (UInt16.ofNat number.toNat) else none
  | _ => none

/-- A value without content. -/
def Value.isEmpty : Value → Bool
  | .list [] => true
  | .table _ [] => true
  | _ => false

/-- Reads one of several names; it may also be the only key of a table, with an empty value. -/
def Value.choice? (ofName : String → Option α) : Value → Option α
  | .text name => ofName name
  | .table _ [(name, value)] => if value.isEmpty then ofName name else none
  | _ => none

/-- Reads an entry that may be missing. -/
def Entries.optional? (entries : Entries) (key : String) (decode : Value → Option α) :
    Option (Option α) :=
  match entries.lookup key with
  | none => some none
  | some value => (decode value).map some

/-- The defaults in a table. -/
def Entries.defaults? (entries : Entries) : Option Defaults := do
  let logLevel ← entries.optional? "log_level" Value.text?
  let mode ← entries.optional? "distributed_mode" (Value.choice? DistributedMode.ofName?)
  let logDir ← entries.optional? "log_dir" Value.text?
  let interpreter ← entries.optional? "interpreter" Value.text?
  let startPort ← entries.optional? "start_port" Value.port?
  let ips ← entries.optional? "ips" Value.text?
  let gpus ← entries.optional? "gpus" Value.text?
  let heterWorkerDevice ←
    entries.optional? "heter_worker_device" (Value.choice? DeviceKind.ofName?)
  return { logLevel, mode, logDir, interpreter, startPort, ips, gpus, heterWorkerDevice }

/-- The defaults in a document. -/
def defaults? (document : String) : Option Defaults := do
  (← Toml.document document).defaults?

end Reading

section Writing

/-- The line of a setting. -/
def line (key : String) (shown : List Char) : List Char :=
  key.toList ++ [' ', '=', ' '] ++ shown ++ ['\n']

/-- The line of a setting that may be left open. -/
def line? (key : String) (shown : α → List Char) : Option α → List Char
  | none => []
  | some value => line key (shown value)

/-- A text between quotes. -/
def quoted (text : String) : List Char := (Quotation.choose text.toList).write text.toList

/-- The lines of defaults, in the order of the settings. -/
def writtenChars (defaults : Defaults) : List Char :=
  line? "log_level" quoted defaults.logLevel ++
  line? "distributed_mode" (fun mode => quoted mode.name) defaults.mode ++
  line? "log_dir" quoted defaults.logDir ++
  line? "interpreter" quoted defaults.interpreter ++
  line? "start_port" (fun port => (toString port.toNat).toList) defaults.startPort ++
  line? "ips" quoted defaults.ips ++
  line? "gpus" quoted defaults.gpus ++
  line? "heter_worker_device" (fun kind => quoted kind.name) defaults.heterWorkerDevice

/-- Defaults as a document. -/
def written (defaults : Defaults) : String := String.ofList (writtenChars defaults)

end Writing

end TrainingLauncher.Toml
