/-
The accelerators the local processes are bound to. A mask in the environment says which devices a
process may see; a process then counts the devices of the mask from zero.
-/

import TrainingLauncher.Cluster
import TrainingLauncher.Environment
import TrainingLauncher.Noted
import TrainingLauncher.Text.Lowercase

namespace TrainingLauncher

open Text

/-- Reads the name of a family of accelerators, in any case. -/
def DeviceKind.parse (source : String) : Except LaunchError DeviceKind :=
  let lowered := lowercase (trim source)
  match DeviceKind.ofName? lowered with
  | some kind => .ok kind
  | none => .error (.config (.unknownDeviceKind lowered))

namespace Devices

/-- A file name made of the stem of a family and a number is that of one of its devices. -/
def isDeviceFile (kind : DeviceKind) (name : String) : Bool :=
  let stem := kind.deviceFileStem.toList
  let number := name.toList.drop stem.length
  stem.isPrefixOf name.toList && !number.isEmpty && number.all Char.isDigit

/-- How many devices of a family can be used: the entries of the mask when it is set, else the
device files. -/
def detect (kind : DeviceKind) (environment : Environment) (deviceFiles : List String) : Nat :=
  match environment[kind.maskVariable]? with
  | some mask => (entries mask).length
  | none => (deviceFiles.filter (isDeviceFile kind)).length

/-- Reads a list of device numbers. -/
def parseAll : List String → Except LaunchError (List DeviceId)
  | [] => .ok []
  | device :: rest =>
    match Decimal.read Decimal.limit32 device with
    | .error _ => .error (.config (.deviceNotANumber device))
    | .ok number => do
      let others ← parseAll rest
      return UInt32.ofNat number :: others

/-- The positions of the requested devices in the mask. -/
def positions (visible : List String) : List String → Except LaunchError (List DeviceId)
  | [] => .ok []
  | device :: rest =>
    match visible.idxOf? device with
    | none => .error (.config (.deviceNotVisible device visible))
    | some position => do
      let others ← positions visible rest
      return UInt32.ofNat position :: others

/-- The devices asked for: all that were detected if there is no request, else the requested ones,
counted in the mask when the mask has an entry. No device at all is an error. -/
def select (requested visible : Option String) (detected : Nat) : Noted (List DeviceId) := do
  let devices : List DeviceId ←
    match requested with
    | none => pure ((List.range (detected % (Decimal.limit32 + 1))).map UInt32.ofNat)
    | some requested =>
      match entries (visible.getD "") with
      | [] => parseAll (entries requested)
      | mask => do
        let relative ← positions mask (entries requested)
        Noted.note .info <|
          "selected devices changed into relative values according to CUDA_VISIBLE_DEVICES"
        pure relative
  if devices.isEmpty then Noted.fail (.config .noDevices) else return devices

end Devices

end TrainingLauncher
