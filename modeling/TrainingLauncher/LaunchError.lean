/-
What can go wrong. Each error names its cause; the wording of all of them is in the functions
`message`, and the exit code of the launcher in `LaunchError.exitCode`.
-/

import TrainingLauncher.Decimal
import TrainingLauncher.Role
import TrainingLauncher.Text.Quoted

namespace TrainingLauncher

open Text

/-- The kind of a failed operation on a file or a process. -/
inductive IoKind where
  | notFound
  | permissionDenied
  | alreadyExists
  | notADirectory
  | isADirectory
  | wouldBlock
  | invalidInput
  | invalidFilename
  | directoryNotEmpty
  | brokenPipe
  | argumentListTooLong
  /-- A refusal of the system that is none of the others. -/
  | uncategorized
  | other
  deriving DecidableEq, Repr

/-- The name of the kind. -/
def IoKind.name : IoKind → String
  | notFound => "NotFound"
  | permissionDenied => "PermissionDenied"
  | alreadyExists => "AlreadyExists"
  | notADirectory => "NotADirectory"
  | isADirectory => "IsADirectory"
  | wouldBlock => "WouldBlock"
  | invalidInput => "InvalidInput"
  | invalidFilename => "InvalidFilename"
  | directoryNotEmpty => "DirectoryNotEmpty"
  | brokenPipe => "BrokenPipe"
  | argumentListTooLong => "ArgumentListTooLong"
  | uncategorized => "Uncategorized"
  | other => "Other"

/-- A failed operation on a file or a process, with the words of whoever refused it. -/
structure IoError where
  kind : IoKind
  text : String
  deriving DecidableEq, Repr

namespace IoError

/-- A failure without a kind of its own. -/
def other (text : String) : IoError := ⟨.other, text⟩

def notFound : IoError := ⟨.notFound, "No such file or directory (os error 2)"⟩

def permissionDenied : IoError := ⟨.permissionDenied, "Permission denied (os error 13)"⟩

def alreadyExists : IoError := ⟨.alreadyExists, "File exists (os error 17)"⟩

def notADirectory : IoError := ⟨.notADirectory, "Not a directory (os error 20)"⟩

def isADirectory : IoError := ⟨.isADirectory, "Is a directory (os error 21)"⟩

def fileNameTooLong : IoError := ⟨.invalidFilename, "File name too long (os error 36)"⟩

/-- A path with a character that no path can have. -/
def nulInPath : IoError :=
  ⟨.invalidInput, "file name contained an unexpected NUL byte"⟩

def directoryNotEmpty : IoError := ⟨.directoryNotEmpty, "Directory not empty (os error 39)"⟩

def brokenPipe : IoError := ⟨.brokenPipe, "Broken pipe (os error 32)"⟩

def badDescriptor : IoError := ⟨.uncategorized, "Bad file descriptor (os error 9)"⟩

def invalidArgument : IoError := ⟨.invalidInput, "Invalid argument (os error 22)"⟩

def notExecutable : IoError := ⟨.uncategorized, "Exec format error (os error 8)"⟩

def noSuchProcess : IoError := ⟨.uncategorized, "No such process (os error 3)"⟩

end IoError

/-- Why a launch description is inconsistent. -/
inductive ConfigFault where
  /-- A fault given in words. -/
  | stated (text : String)
  | endpointWithoutPort (text : String)
  | endpointWithoutHost (text : String)
  | endpointPort (text : String) (fault : Decimal.Fault)
  | noNodes
  /-- This node's address, unknown when `none`, is not one of the nodes. -/
  | nodeNotListed (address : Option String) (nodes : List String)
  | portBlock (first last start : Nat)
  | unknownDeviceKind (text : String)
  | unknownMode (text : String)
  | deviceNotANumber (device : String)
  | deviceNotVisible (device : String) (visible : List String)
  | noDevices
  | endpointLists (lists nodes : Nat)
  | fewEndpoints (node : String) (endpoints devices : Nat)
  | variableNotSet (name : String)
  | schedulerEndpoints (listed nodes perNode : Nat)
  | roleCount (role : Role) (count listed : Nat)
  | roleMissing (role : Role)
  | podWithoutDevices (rank : Nat) (address : String)
  | podWithoutPort (rank : Nat)
  | heterWorkerWithoutDevice (rank : Nat) (kind : DeviceKind)
  deriving DecidableEq, Repr

/-- A fault in words. -/
def ConfigFault.message : ConfigFault → String
  | stated text => text
  | endpointWithoutPort text => s!"endpoint {quoted text} is not ip:port"
  | endpointWithoutHost text => s!"endpoint {quoted text} has no host"
  | endpointPort text fault => s!"endpoint {quoted text} has a bad port: {fault.message}"
  | noNodes => "the node ip list is empty"
  | nodeNotListed address nodes =>
    let shown := address.getD "<unresolved>"
    s!"can't find your local ip {shown} in node_ips: {quotedList nodes}"
  | portBlock first last start =>
    s!"port block {first}..{last} (start port {start}) does not fit in the port space"
  | unknownDeviceKind text => s!"unknown device kind {quoted text}"
  | unknownMode text =>
    s!"unknown distributed mode {quoted text}, expected collective, ps, ps_heter or ps_gpu"
  | deviceNotANumber device => s!"device id {quoted device} is not a number"
  | deviceNotVisible device visible =>
    let mask := joined "," visible
    s!"can't find your device {device} in CUDA_VISIBLE_DEVICES[{mask}]"
  | noDevices => "no accelerator devices are visible; pass --gpus explicitly"
  | endpointLists lists nodes => s!"got endpoints for {lists} nodes but {nodes} node ips"
  | fewEndpoints node endpoints devices =>
    s!"node {node} has {endpoints} trainer endpoints but {devices} selected devices"
  | variableNotSet name => s!"{name} is not set"
  | schedulerEndpoints listed nodes perNode =>
    s!"DISTRIBUTED_TRAINER_ENDPOINTS has {listed} entries, expected {nodes} nodes x {perNode}"
  | roleCount role count listed =>
    s!"{role.title} count {count} doesn't match its endpoint list of {listed} entries"
  | roleMissing role =>
    s!"parameter-server mode needs a {role.title} count or a {role.title} endpoint list"
  | podWithoutDevices rank address => s!"pod {rank} ({address}) can't see any devices"
  | podWithoutPort rank => s!"pod {rank} has no listening port"
  | heterWorkerWithoutDevice rank kind =>
    s!"heter worker rank {rank} needs a local {kind.name} device but none are visible"

/-- A local process that ended with an exit code other than zero. Ranks count per role, so the role
is part of its identity. -/
structure FailedProcess where
  role : Role
  rank : Nat
  code : Int
  deriving DecidableEq, Repr

/-- The failed process in words. -/
def FailedProcess.text (failed : FailedProcess) : String :=
  s!"{failed.role.tag} rank {failed.rank} (exit code {failed.code})"

/-- Why a job could not be started or did not complete. -/
inductive LaunchError where
  /-- The launch description is inconsistent. -/
  | config (fault : ConfigFault)
  /-- No `requested` free ports were found. -/
  | allocation (requested : Nat)
  /-- Local processes ended with an exit code other than zero. -/
  | roleProcessFailure (failed : List FailedProcess) (nranks : Nat)
  /-- Processes were still running after the last kill round. -/
  | terminationTimeout (pids : List Nat)
  /-- The operator asked the launcher to stop. -/
  | interrupted
  /-- The process of a rank could not be started. -/
  | spawn (rank : Nat) (source : IoError)
  | io (source : IoError)
  /-- A sum left the 64-bit range, which stops the launcher on the spot. -/
  | overflow
  deriving DecidableEq, Repr

namespace LaunchError

/-- The error in words. -/
def message : LaunchError → String
  | config fault => "configuration error: " ++ fault.message
  | allocation requested => s!"could not find {requested} free ports"
  | roleProcessFailure failed nranks =>
    let shown := joined ", " (failed.map (·.text))
    s!"out of all {nranks} trainers, {shown} aborted; check their logs"
  | terminationTimeout pids =>
    let shown := bracketed (pids.map toString)
    s!"could not terminate local processes {shown}"
  | interrupted => "interrupted"
  | spawn rank source => s!"failed to spawn rank {rank}: {source.text}"
  | io source => "io error: " ++ source.text
  | overflow => "attempt to add with overflow"

/-- The exit code of a launcher that stops with the error. -/
def exitCode : LaunchError → Nat
  | interrupted => 130
  | overflow => 101
  | _ => 1

/-- The error is about the launch description. -/
def IsConfig (error : LaunchError) : Prop := ∃ fault, error = config fault

end LaunchError

/-- A sum or product of counts, which must stay below 64 bits. -/
def counted (value : Nat) : Except LaunchError Nat :=
  if value ≤ Decimal.limit64 then .ok value else .error .overflow

theorem counted_of_le {value : Nat} (small : value ≤ Decimal.limit64) :
    counted value = .ok value := by
  simp [counted, small]

theorem counted_eq_ok_iff {value result : Nat} :
    counted value = .ok result ↔ value ≤ Decimal.limit64 ∧ result = value := by
  rw [counted]
  split
  · rename_i small
    exact ⟨fun same => ⟨small, (Except.ok.inj same).symm⟩, fun ⟨_, same⟩ => same ▸ rfl⟩
  · rename_i large
    constructor
    · intro same
      cases same
    · exact fun ⟨small, _⟩ => (large small).elim

theorem counted_eq_overflow_iff {value : Nat} :
    counted value = .error .overflow ↔ Decimal.limit64 < value := by
  rw [counted]
  split
  · rename_i small
    exact iff_of_false (fun absurd => by cases absurd) (Nat.not_lt.mpr small)
  · rename_i large
    exact iff_of_true rfl (Nat.lt_of_not_le large)

/-- A sequence has a result when all of its steps have one. -/
theorem bind_eq_ok_iff {ε : Type} {first : Except ε α} {next : α → Except ε β} {result : β} :
    first >>= next = .ok result ↔ ∃ value, first = .ok value ∧ next value = .ok result := by
  cases first with
  | error error =>
    constructor
    · intro same
      cases same
    · rintro ⟨_, same, -⟩
      cases same
  | ok value =>
    constructor
    · exact fun same => ⟨value, rfl, same⟩
    · rintro ⟨_, same, rest⟩
      cases same
      exact rest

/-- A sequence fails at the first of its steps that does. -/
theorem bind_eq_error_iff {ε : Type} {first : Except ε α} {next : α → Except ε β} {error : ε} :
    first >>= next = .error error ↔
      first = .error error ∨ ∃ value, first = .ok value ∧ next value = .error error := by
  cases first with
  | error fault =>
    constructor
    · exact fun same => .inl (congrArg _ (Except.error.inj same))
    · rintro (same | ⟨_, same, -⟩)
      · exact congrArg _ (Except.error.inj same)
      · cases same
  | ok value =>
    constructor
    · exact fun same => .inr ⟨value, rfl, same⟩
    · rintro (same | ⟨_, same, rest⟩)
      · cases same
      · cases same
        exact rest

end TrainingLauncher
