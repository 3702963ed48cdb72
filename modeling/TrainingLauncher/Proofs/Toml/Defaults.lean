/-
Defaults as documents, read back. The lines of defaults are settings with different keys, so the
document is the table of what is set, and each setting is found in it as it was.

* `settings`, `writtenChars_eq`: defaults are written as settings.
* `lookup_settings`: what a table of settings holds under a key.
* `defaults?_written`: defaults are read back from their document, whatever they are.
-/

import TrainingLauncher.Proofs.Toml.Document
import TrainingLauncher.Toml.Defaults

namespace TrainingLauncher.Toml

section Optional

variable {α : Type} {key : String} {entries : Entries} {make : α → Setting}

/-- The setting of a value that may be left open. -/
def setting? (make : α → Setting) (value : Option α) : List Setting := (value.map make).toList

theorem lines_append (first second : List Setting) :
    lines (first ++ second) = lines first ++ lines second := List.flatMap_append

/-- A value that may be left open is written as its setting. -/
theorem lines_setting? (key : String) (shown : α → List Char) (value : Option α)
    (written : ∀ value, (make value).line = line key (shown value)) :
    lines (setting? make value) = line? key shown value := by
  cases value with
  | none => rfl
  | some value =>
    rw [setting?, Option.map_some, Option.toList_some, lines_cons, written]
    exact List.append_nil _

theorem keys_setting? (key : String) (value : Option α)
    (named : ∀ value, (make value).key = key) :
    ((setting? make value).map Setting.key).Sublist [key] := by
  cases value with
  | none => exact List.nil_sublist _
  | some value => simp [setting?, named]

/-- What the setting of a value puts under a key. -/
theorem lookup_setting? (key : String) (value : Option α)
    (named : ∀ value, (make value).key = key) (other : String) :
    ((setting? make value).map Setting.entry).lookup other =
      if other = key then value.map fun value => (make value).value else none := by
  cases value with
  | none => simp [setting?]
  | some value =>
    by_cases same : other = key
    · simp [setting?, Setting.entry, named, same]
    · have differs : (other == key) = false := by simpa using same
      simp [setting?, Setting.entry, named, same, List.lookup_cons, differs]

/-- A setting is read back from the value under its key. -/
theorem optional?_of_lookup (encode : α → Value) {decode : Value → Option α} {value : Option α}
    (stored : entries.lookup key = value.map encode)
    (decodes : ∀ value, decode (encode value) = some value) :
    entries.optional? key decode = some value := by
  unfold Entries.optional?
  rw [stored]
  cases value with
  | none => rfl
  | some value => simp [decodes]

end Optional

section Choices

theorem choice?_mode_name (mode : DistributedMode) :
    Value.choice? DistributedMode.ofName? (.text mode.name) = some mode := by
  cases mode <;> decide

theorem choice?_kind_name (kind : DeviceKind) :
    Value.choice? DeviceKind.ofName? (.text kind.name) = some kind := by
  cases kind <;> decide

/-- A port is read back from its number. -/
theorem port?_toNat (port : Port) : Value.port? (.integer port.toNat) = some port := by
  have small : port.toNat < 65536 := port.toNat_lt
  have inRange : (0 : Int) ≤ port.toNat ∧ (port.toNat : Int) ≤ Decimal.limit16 := by
    unfold Decimal.limit16
    omega
  show (if (0 : Int) ≤ port.toNat ∧ (port.toNat : Int) ≤ Decimal.limit16 then
    some (UInt16.ofNat (port.toNat : Int).toNat) else none) = some port
  rw [if_pos inRange, Int.toNat_natCast, UInt16.ofNat_toNat]

end Choices

/-- A port is a whole number of 64 bits. -/
theorem toNat_le_of_port (port : Port) : port.toNat ≤ 9223372036854775807 := by
  have small : port.toNat < 65536 := port.toNat_lt
  omega

/-- Defaults as the settings they are written as. -/
def settings (defaults : Defaults) : List Setting :=
  setting? (.ofText "log_level" (by decide)) defaults.logLevel ++
  setting? (fun mode => .ofText "distributed_mode" (by decide) mode.name) defaults.mode ++
  setting? (.ofText "log_dir" (by decide)) defaults.logDir ++
  setting? (.ofText "interpreter" (by decide)) defaults.interpreter ++
  setting? (fun port => .ofNumber "start_port" (by decide) port.toNat (toNat_le_of_port port))
    defaults.startPort ++
  setting? (.ofText "ips" (by decide)) defaults.ips ++
  setting? (.ofText "gpus" (by decide)) defaults.gpus ++
  setting? (fun kind => .ofText "heter_worker_device" (by decide) kind.name)
    defaults.heterWorkerDevice

section Defaults

variable (defaults : Defaults)

/-- Defaults are written as settings. -/
theorem writtenChars_eq : writtenChars defaults = lines (settings defaults) := by
  have texts (key : String) (bare : IsBare key) (value : Option String) :
      lines (setting? (.ofText key bare) value) = line? key quoted value :=
    lines_setting? key quoted value fun _ => rfl
  have names {α : Type} (key : String) (bare : IsBare key) (name : α → String)
      (value : Option α) : lines (setting? (fun value => .ofText key bare (name value)) value) =
        line? key (fun value => quoted (name value)) value :=
    lines_setting? key _ value fun _ => rfl
  have ports (value : Option Port) :
      lines (setting? (fun port => .ofNumber "start_port" (by decide) port.toNat
        (toNat_le_of_port port)) value) =
        line? "start_port" (fun port => (toString port.toNat).toList) value := by
    refine lines_setting? "start_port" _ value fun port => ?_
    rw [Decimal.toList_toString]
    rfl
  simp only [writtenChars, settings, lines_append]
  rw [texts, names, texts, texts, ports, texts, texts, names]

/-- The settings that are set keep the order of all settings. -/
theorem keys_settings : ((settings defaults).map Setting.key).Sublist
    ["log_level", "distributed_mode", "log_dir", "interpreter", "start_port", "ips", "gpus",
      "heter_worker_device"] := by
  simp only [settings, List.map_append]
  exact (((((((keys_setting? "log_level" _ fun _ => rfl).append
    (keys_setting? "distributed_mode" _ fun _ => rfl)).append
    (keys_setting? "log_dir" _ fun _ => rfl)).append
    (keys_setting? "interpreter" _ fun _ => rfl)).append
    (keys_setting? "start_port" _ fun _ => rfl)).append
    (keys_setting? "ips" _ fun _ => rfl)).append
    (keys_setting? "gpus" _ fun _ => rfl)).append
    (keys_setting? "heter_worker_device" _ fun _ => rfl)

/-- What a table of defaults holds under a key. -/
theorem lookup_settings (key : String) : ((settings defaults).map Setting.entry).lookup key =
    ((((((((if key = "log_level" then defaults.logLevel.map Value.text else none).or
    (if key = "distributed_mode" then defaults.mode.map fun mode => .text mode.name else none)).or
    (if key = "log_dir" then defaults.logDir.map .text else none)).or
    (if key = "interpreter" then defaults.interpreter.map .text else none)).or
    (if key = "start_port" then defaults.startPort.map fun port => .integer port.toNat
      else none)).or
    (if key = "ips" then defaults.ips.map .text else none)).or
    (if key = "gpus" then defaults.gpus.map .text else none)).or
    (if key = "heter_worker_device" then defaults.heterWorkerDevice.map fun kind => .text kind.name
      else none)) := by
  simp only [settings, List.map_append, List.lookup_append]
  rw [lookup_setting? "log_level" _ fun _ => rfl, lookup_setting? "distributed_mode" _ fun _ => rfl,
    lookup_setting? "log_dir" _ fun _ => rfl, lookup_setting? "interpreter" _ fun _ => rfl,
    lookup_setting? "start_port" _ fun _ => rfl, lookup_setting? "ips" _ fun _ => rfl,
    lookup_setting? "gpus" _ fun _ => rfl, lookup_setting? "heter_worker_device" _ fun _ => rfl]
  rfl

/-- The table of defaults is read as the defaults. -/
theorem defaults?_settings :
    Entries.defaults? ((settings defaults).map Setting.entry) = some defaults := by
  obtain ⟨entries, same⟩ : ∃ entries : Entries, entries = (settings defaults).map Setting.entry :=
    ⟨_, rfl⟩
  have found := lookup_settings defaults
  rw [← same] at found ⊢
  have logLevel : entries.optional? "log_level" Value.text? = some defaults.logLevel :=
    optional?_of_lookup .text (by rw [found]; simp) fun _ => rfl
  have mode : entries.optional? "distributed_mode" (Value.choice? DistributedMode.ofName?) =
      some defaults.mode :=
    optional?_of_lookup (fun mode => .text mode.name) (by rw [found]; simp) choice?_mode_name
  have logDir : entries.optional? "log_dir" Value.text? = some defaults.logDir :=
    optional?_of_lookup .text (by rw [found]; simp) fun _ => rfl
  have interpreter : entries.optional? "interpreter" Value.text? = some defaults.interpreter :=
    optional?_of_lookup .text (by rw [found]; simp) fun _ => rfl
  have startPort : entries.optional? "start_port" Value.port? = some defaults.startPort :=
    optional?_of_lookup (fun port => .integer port.toNat) (by rw [found]; simp) port?_toNat
  have ips : entries.optional? "ips" Value.text? = some defaults.ips :=
    optional?_of_lookup .text (by rw [found]; simp) fun _ => rfl
  have gpus : entries.optional? "gpus" Value.text? = some defaults.gpus :=
    optional?_of_lookup .text (by rw [found]; simp) fun _ => rfl
  have heterWorkerDevice :
      entries.optional? "heter_worker_device" (Value.choice? DeviceKind.ofName?) =
        some defaults.heterWorkerDevice :=
    optional?_of_lookup (fun kind => .text kind.name) (by rw [found]; simp) choice?_kind_name
  simp [Entries.defaults?, logLevel, mode, logDir, interpreter, startPort, ips, gpus,
    heterWorkerDevice]

/-- **Defaults are read back from their document**, whatever they are. -/
theorem defaults?_written : defaults? (written defaults) = some defaults := by
  have different : ((settings defaults).map Setting.key).Nodup :=
    (keys_settings defaults).nodup (by decide)
  have table : document (written defaults) = some ((settings defaults).map Setting.entry) := by
    rw [written, writtenChars_eq, document_lines different]
  simp [defaults?, table, defaults?_settings]

end Defaults

end TrainingLauncher.Toml
