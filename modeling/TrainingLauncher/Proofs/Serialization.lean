/-
Clusters and job descriptions as JSON values, read back. A part is read back by itself, a record by
its parts. Nothing is lost as long as the ranks and counts have 64 bits: not even the job server,
which does not count when clusters are compared. A description may leave out members; it is then
read as if they were there and blank.

* `list?_map_eq_some_iff`, `nullable?_ofOption_eq_some_iff`: lists and missing values.
* `Cluster.ofJson?_toJson_eq_some_iff`, `LaunchConfig.ofJson?_toJson_eq_some_iff`: which clusters
  and descriptions are read back.
* `Json.completed`, `Json.record?_completed`: an object with the members that are missing put at its
  end is read like the object.
* `LaunchConfig.json_roundTrips`: the laws together.
-/

import TrainingLauncher.Json.LaunchConfig
import TrainingLauncher.Proofs.JsonText

namespace TrainingLauncher

open Json ParameterServer

namespace Json

section Parts

variable {α : Type} {decode : Json → Option α} {encode : α → Json}

/-- A list is read back if and only if every item is. -/
theorem list?_map_eq_some_iff {values : List α} :
    list? decode (.list (values.map encode)) = some values ↔
      ∀ value ∈ values, decode (encode value) = some value := by
  show readAll? decode (values.map encode) = some values ↔ _
  induction values with
  | nil => simp [readAll?]
  | cons first others ih =>
    rw [List.map_cons, readAll?, List.forall_mem_cons, ← ih]
    simp [Option.bind_eq_some_iff]

/-- A value that may be missing is read back if and only if it is when it is there. -/
theorem nullable?_ofOption_eq_some_iff {value : Option α}
    (shown : ∀ value, encode value ≠ .null) :
    nullable? decode (ofOption encode value) = some value ↔
      ∀ inner ∈ value, decode (encode inner) = some inner := by
  cases value with
  | none => simp [ofOption, nullable?]
  | some inner =>
    have read : nullable? decode (encode inner) = (decode (encode inner)).map some := by
      unfold nullable?
      split
      · exact absurd ‹_› (shown inner)
      · rfl
    simp [ofOption, read]

/-- A number is read back if and only if it is in range. -/
theorem natural?_integer_eq_some_iff {limit number : Nat} :
    natural? limit (.integer number) = some number ↔ number ≤ limit := by
  simp [natural?]

theorem count?_ofCount_eq_some_iff {count : Nat} :
    count? (ofCount count) = some count ↔ count ≤ Decimal.limit64 :=
  natural?_integer_eq_some_iff

@[simp] theorem port?_ofPort (port : Port) : port? (ofPort port) = some port := by
  have small : port.toNat < 65536 := port.toNat_lt
  have inRange : port.toNat ≤ Decimal.limit16 := by
    unfold Decimal.limit16
    omega
  simp [port?, ofPort, natural?_integer_eq_some_iff.mpr inRange]

@[simp] theorem devices?_ofDevices (devices : List DeviceId) :
    devices? (ofDevices devices) = some devices := by
  refine list?_map_eq_some_iff.mpr fun device _ => ?_
  have small : device.toNat < 4294967296 := device.toNat_lt
  have inRange : device.toNat ≤ Decimal.limit32 := by
    unfold Decimal.limit32
    omega
  simp [natural?_integer_eq_some_iff.mpr inRange]

@[simp] theorem nullable?_port (port : Option Port) :
    nullable? port? (ofOption ofPort port) = some port :=
  (nullable?_ofOption_eq_some_iff nofun).mpr fun inner _ => port?_ofPort inner

@[simp] theorem nullable?_text (text : Option String) :
    nullable? text? (ofOption .text text) = some text :=
  (nullable?_ofOption_eq_some_iff nofun).mpr fun _ _ => rfl

@[simp] theorem list?_text (texts : List String) :
    list? text? (.list (texts.map .text)) = some texts :=
  list?_map_eq_some_iff.mpr fun _ _ => rfl

@[simp] theorem choice?_mode (mode : DistributedMode) :
    choice? DistributedMode.ofName? (.text mode.name) = some mode := by
  cases mode <;> decide

@[simp] theorem choice?_kind (kind : DeviceKind) :
    choice? DeviceKind.ofName? (.text kind.name) = some kind := by
  cases kind <;> decide

end Parts

end Json

section Clusters

@[simp] theorem Endpoint.ofJson?_toJson (endpoint : Endpoint) :
    Endpoint.ofJson? endpoint.toJson = some endpoint := by
  simp [Endpoint.ofJson?, Endpoint.toJson, record?, isRepeating, required?, List.lookup_cons, text?]

@[simp] theorem nullable?_endpoint (endpoint : Option Endpoint) :
    nullable? Endpoint.ofJson? (ofOption Endpoint.toJson endpoint) = some endpoint :=
  (nullable?_ofOption_eq_some_iff nofun).mpr fun inner _ => inner.ofJson?_toJson

theorem RoleProcess.ofJson?_toJson_eq_some_iff (process : RoleProcess) :
    RoleProcess.ofJson? process.toJson = some process ↔ process.rank ≤ Decimal.limit64 := by
  rw [← count?_ofCount_eq_some_iff]
  rcases process with ⟨devices, endpoint, rank⟩
  simp [RoleProcess.ofJson?, RoleProcess.toJson, record?, isRepeating, required?, List.lookup_cons,
    Option.bind_eq_some_iff]

/-- The ranks of the processes in a list have 64 bits. -/
def AreRanked (processes : List RoleProcess) : Prop :=
  ∀ process ∈ processes, process.rank ≤ Decimal.limit64

theorem list?_process_eq_some_iff (processes : List RoleProcess) :
    list? RoleProcess.ofJson? (.list (processes.map RoleProcess.toJson)) = some processes ↔
      AreRanked processes := by
  rw [list?_map_eq_some_iff]
  exact forall₂_congr fun process _ => process.ofJson?_toJson_eq_some_iff

/-- The ranks in a pod have 64 bits. -/
structure Pod.IsRanked (pod : Pod) : Prop where
  rank : pod.rank ≤ Decimal.limit64
  trainers : AreRanked pod.trainers
  servers : AreRanked pod.servers
  heterWorkers : AreRanked pod.heterWorkers

theorem Pod.ofJson?_toJson_eq_some_iff (pod : Pod) :
    Pod.ofJson? pod.toJson = some pod ↔ pod.IsRanked := by
  have parts : pod.IsRanked ↔ count? (ofCount pod.rank) = some pod.rank ∧
      list? RoleProcess.ofJson? (.list (pod.trainers.map RoleProcess.toJson)) = some pod.trainers ∧
      list? RoleProcess.ofJson? (.list (pod.servers.map RoleProcess.toJson)) = some pod.servers ∧
      list? RoleProcess.ofJson? (.list (pod.heterWorkers.map RoleProcess.toJson)) =
        some pod.heterWorkers := by
    rw [count?_ofCount_eq_some_iff]
    simp only [list?_process_eq_some_iff]
    exact ⟨fun ⟨rank, trainers, servers, heters⟩ => ⟨rank, trainers, servers, heters⟩,
      fun ⟨rank, trainers, servers, heters⟩ => ⟨rank, trainers, servers, heters⟩⟩
  rw [parts]
  rcases pod with ⟨rank, id, address, port, trainers, servers, heterWorkers, devices⟩
  simp [Pod.ofJson?, Pod.toJson, record?, isRepeating, required?, optional?, List.lookup_cons,
    text?, Option.bind_eq_some_iff]

/-- The ranks in a cluster have 64 bits. -/
def Cluster.IsRanked (cluster : Cluster) : Prop := ∀ pod ∈ cluster.pods, pod.IsRanked

/-- **A cluster is read back, its job server included**, if and only if its ranks have 64 bits. -/
theorem Cluster.ofJson?_toJson_eq_some_iff (cluster : Cluster) :
    Cluster.ofJson? cluster.toJson = some cluster ↔ cluster.IsRanked := by
  have pods : cluster.IsRanked ↔
      list? Pod.ofJson? (.list (cluster.pods.map Pod.toJson)) = some cluster.pods := by
    rw [list?_map_eq_some_iff]
    exact forall₂_congr fun pod _ => pod.ofJson?_toJson_eq_some_iff.symm
  rw [pods]
  rcases cluster with ⟨pods, jobServer, jobStage⟩
  simp [Cluster.ofJson?, Cluster.toJson, record?, isRepeating, required?, optional?,
    List.lookup_cons, Option.bind_eq_some_iff]

end Clusters

section Descriptions

theorem ParameterServer.RoleSpec.ofJson?_toJson_eq_some_iff (spec : RoleSpec) :
    RoleSpec.ofJson? spec.toJson = some spec ↔ ∀ count ∈ spec.count, count ≤ Decimal.limit64 := by
  have count : (∀ count ∈ spec.count, count ≤ Decimal.limit64) ↔
      nullable? count? (ofOption ofCount spec.count) = some spec.count := by
    rw [nullable?_ofOption_eq_some_iff nofun]
    exact forall₂_congr fun count _ => count?_ofCount_eq_some_iff.symm
  rw [count]
  rcases spec with ⟨count, endpoints⟩
  simp [RoleSpec.ofJson?, RoleSpec.toJson, record?, isRepeating, optional?, List.lookup_cons,
    Option.bind_eq_some_iff]

/-- The counts in a description have 64 bits. -/
structure LaunchConfig.IsCounted (config : LaunchConfig) : Prop where
  servers : ∀ count ∈ config.servers.count, count ≤ Decimal.limit64
  workers : ∀ count ∈ config.workers.count, count ≤ Decimal.limit64
  heterWorkers : ∀ count ∈ config.heterWorkers.count, count ≤ Decimal.limit64

/-- Everything but the counts of a description is read back in any case. -/
theorem LaunchConfig.ofJson?_toJson (config : LaunchConfig) :
    LaunchConfig.ofJson? config.toJson = do
      let servers ← RoleSpec.ofJson? config.servers.toJson
      let workers ← RoleSpec.ofJson? config.workers.toJson
      let heterWorkers ← RoleSpec.ofJson? config.heterWorkers.toJson
      return { config with servers, workers, heterWorkers } := by
  obtain ⟨members, same, record⟩ : ∃ members, config.toJson = .object members ∧
      record? memberNames 9 (.object members) = some members := ⟨_, rfl, rfl⟩
  have texts (name : String) (text : Option String)
      (found : members.lookup name = some (ofOption .text text)) :
      optional? members name text? = some text := by
    rw [optional?, found]
    exact nullable?_text text
  have roles (name : String) (spec : RoleSpec) (found : members.lookup name = some spec.toJson) :
      defaulted? members name .unset RoleSpec.ofJson? = RoleSpec.ofJson? spec.toJson := by
    rw [defaulted?, found]
  have mode : defaulted? members "mode" .unset (choice? DistributedMode.ofName?) =
      some config.mode := by
    cases same
    exact choice?_mode config.mode
  have script : required? members "training_script" text? = some config.trainingScript := by
    cases same
    rfl
  have arguments : defaulted? members "training_script_args" [] (list? text?) =
      some config.trainingScriptArgs := by
    cases same
    exact list?_text config.trainingScriptArgs
  have startPort : optional? members "start_port" port? = some config.startPort := by
    cases same
    exact nullable?_port config.startPort
  have device : defaulted? members "heter_worker_device" .gpu (choice? DeviceKind.ofName?) =
      some config.heterWorkerDevice := by
    cases same
    exact choice?_kind config.heterWorkerDevice
  rw [same, LaunchConfig.ofJson?, record, Option.bind_eq_bind, Option.bind_some, mode,
    texts "log_dir" config.logDir (by cases same; rfl),
    texts "interpreter" config.interpreter (by cases same; rfl), script, arguments,
    texts "ips" config.ips (by cases same; rfl), texts "gpus" config.gpus (by cases same; rfl),
    texts "node_ip" config.nodeIp (by cases same; rfl), startPort,
    roles "servers" config.servers (by cases same; rfl),
    roles "workers" config.workers (by cases same; rfl),
    roles "heter_workers" config.heterWorkers (by cases same; rfl), device]
  rfl

/-- **A description is read back** if and only if its counts have 64 bits. -/
theorem LaunchConfig.ofJson?_toJson_eq_some_iff (config : LaunchConfig) :
    LaunchConfig.ofJson? config.toJson = some config ↔ config.IsCounted := by
  rw [LaunchConfig.ofJson?_toJson]
  constructor
  · intro same
    obtain ⟨servers, served, same⟩ := Option.bind_eq_some_iff.mp same
    obtain ⟨workers, worked, same⟩ := Option.bind_eq_some_iff.mp same
    obtain ⟨heterWorkers, heter, same⟩ := Option.bind_eq_some_iff.mp same
    have unchanged := Option.some.inj same
    rw [show servers = config.servers from congrArg LaunchConfig.servers unchanged] at served
    rw [show workers = config.workers from congrArg LaunchConfig.workers unchanged] at worked
    rw [show heterWorkers = config.heterWorkers from
      congrArg LaunchConfig.heterWorkers unchanged] at heter
    exact ⟨(RoleSpec.ofJson?_toJson_eq_some_iff _).mp served,
      (RoleSpec.ofJson?_toJson_eq_some_iff _).mp worked,
      (RoleSpec.ofJson?_toJson_eq_some_iff _).mp heter⟩
  · rintro ⟨servers, workers, heterWorkers⟩
    rw [(RoleSpec.ofJson?_toJson_eq_some_iff _).mpr servers,
      (RoleSpec.ofJson?_toJson_eq_some_iff _).mpr workers,
      (RoleSpec.ofJson?_toJson_eq_some_iff _).mpr heterWorkers]
    rfl

end Descriptions

section Completion

namespace Json

variable {α : Type} {blanks members : List (String × Json)} {name : String}
  {decode : Json → Option α}

/-- The members of an object, and after them the blank ones that are missing. -/
def completed (blanks members : List (String × Json)) : List (String × Json) :=
  members ++ blanks.filter fun blank => (members.lookup blank.1).isNone

/-- A member that is missing is found blank. -/
theorem lookup_completed (blanks members : List (String × Json)) (name : String) :
    (completed blanks members).lookup name = (members.lookup name).or (blanks.lookup name) := by
  rw [completed, List.lookup_append]
  cases given : members.lookup name with
  | some json => rfl
  | none =>
    rw [Option.none_or, Option.none_or]
    induction blanks with
    | nil => rfl
    | cons blank others ih =>
      obtain ⟨key, json⟩ := blank
      by_cases here : name = key
      · have missing : (members.lookup key).isNone = true := by rw [← here, given]; rfl
        simp [missing, here]
      · have apart : (name == key) = false := by simpa using here
        by_cases missing : (members.lookup key).isNone = true
        · simp [missing, List.lookup_cons, apart, ih]
        · simp [missing, List.lookup_cons, apart, ih]

/-- Members that are new to an object repeat nothing. -/
theorem isRepeating_append {names : List String} {others : List (String × Json)}
    (apart : ∀ member ∈ members, others.lookup member.1 = none)
    (distinct : isRepeating names others = false) :
    isRepeating names (members ++ others) = isRepeating names members := by
  induction members with
  | nil => exact distinct
  | cons member rest ih =>
    obtain ⟨name, json⟩ := member
    obtain ⟨here, later⟩ := List.forall_mem_cons.mp apart
    rw [List.cons_append, isRepeating, isRepeating, ih later, List.lookup_append, here,
      Option.or_none]

/-- Leaving out members makes none of them repeat. -/
theorem isRepeating_filter {names : List String} (keep : String × Json → Bool)
    (distinct : isRepeating names blanks = false) :
    isRepeating names (blanks.filter keep) = false := by
  induction blanks with
  | nil => rfl
  | cons blank rest ih =>
    obtain ⟨name, json⟩ := blank
    rw [isRepeating, Bool.or_eq_false_iff] at distinct
    obtain ⟨alone, others⟩ := distinct
    rw [List.filter_cons]
    split
    · rw [isRepeating, ih others, Bool.or_false]
      rw [Bool.and_eq_false_iff] at alone ⊢
      refine alone.imp_right fun missing => ?_
      rw [Option.isSome_eq_false_iff, Option.isNone_iff_eq_none,
        List.lookup_eq_none_iff] at missing ⊢
      exact fun other member => missing other (List.mem_of_mem_filter member)
    · exact ih others

/-- An object is completed without a repeat, unless it has one already. -/
theorem isRepeating_completed {names : List String} (distinct : isRepeating names blanks = false) :
    isRepeating names (completed blanks members) = isRepeating names members := by
  refine isRepeating_append (fun member inside => ?_) (isRepeating_filter _ distinct)
  rw [List.lookup_eq_none_iff]
  intro blank added
  have missing := (List.mem_filter.mp added).2
  rw [Option.isNone_iff_eq_none, List.lookup_eq_none_iff] at missing
  have apart := missing member inside
  rwa [bne_comm] at apart

/-- A completed object is taken as a record when the object is. -/
theorem record?_completed {names : List String} {least : Nat}
    (distinct : isRepeating names blanks = false) :
    record? names least (.object (completed blanks members)) =
      (record? names least (.object members)).map (completed blanks) := by
  rw [record?, record?, isRepeating_completed distinct]
  cases isRepeating names members <;> rfl

/-- What is read out of the members of a record is read out of those of the completed one. -/
theorem bind_record?_completed {names : List String} {least : Nat}
    {decode : List (String × Json) → Option α} (distinct : isRepeating names blanks = false)
    (same : ∀ members, decode (completed blanks members) = decode members) :
    (record? names least (.object (completed blanks members))).bind decode =
      (record? names least (.object members)).bind decode := by
  rw [record?_completed distinct, Option.bind_map]
  exact congrArg _ (funext same)

/-- A member that must be there is not made up. -/
theorem required?_completed (required : blanks.lookup name = none) :
    required? (completed blanks members) name decode = required? members name decode := by
  rw [required?, lookup_completed, required, Option.or_none, required?]

/-- A member that may be missing may as well be null. -/
theorem optional?_completed (blank : blanks.lookup name = some .null) :
    optional? (completed blanks members) name decode = optional? members name decode := by
  rw [optional?, lookup_completed, blank, optional?]
  cases members.lookup name <;> rfl

/-- A member that has a default may as well be the default. -/
theorem defaulted?_completed {default : α} {json : Json} (blank : blanks.lookup name = some json)
    (reads : decode json = some default) :
    defaulted? (completed blanks members) name default decode =
      defaulted? members name default decode := by
  rw [defaulted?, lookup_completed, blank, defaulted?]
  cases members.lookup name with
  | none => exact reads
  | some given => rfl

end Json

/-- The members of a role's description that may be missing. -/
def ParameterServer.RoleSpec.blanks : List (String × Json) :=
  [("count", .null), ("endpoints", .null)]

/-- The members of a description that may be missing, with what they then stand for. -/
def LaunchConfig.blanks : List (String × Json) := [
  ("mode", .text DistributedMode.unset.name), ("log_dir", .null), ("interpreter", .null),
  ("training_script_args", .list []), ("ips", .null), ("gpus", .null), ("node_ip", .null),
  ("start_port", .null), ("servers", RoleSpec.unset.toJson), ("workers", RoleSpec.unset.toJson),
  ("heter_workers", RoleSpec.unset.toJson), ("heter_worker_device", .text DeviceKind.gpu.name)]

theorem ParameterServer.RoleSpec.ofJson?_completed (members : List (String × Json)) :
    RoleSpec.ofJson? (.object (completed RoleSpec.blanks members)) =
      RoleSpec.ofJson? (.object members) := by
  refine bind_record?_completed rfl fun members => ?_
  have count : optional? (completed RoleSpec.blanks members) "count" count? =
      optional? members "count" count? :=
    optional?_completed rfl
  have endpoints : optional? (completed RoleSpec.blanks members) "endpoints" text? =
      optional? members "endpoints" text? :=
    optional?_completed rfl
  rw [count, endpoints]

/-- **A description with members missing is read as if they were there and blank.** -/
theorem LaunchConfig.ofJson?_completed (members : List (String × Json)) :
    LaunchConfig.ofJson? (.object (completed LaunchConfig.blanks members)) =
      LaunchConfig.ofJson? (.object members) := by
  refine bind_record?_completed rfl fun members => ?_
  have script : required? (completed LaunchConfig.blanks members) "training_script" text? =
      required? members "training_script" text? :=
    required?_completed rfl
  have texts (name : String) (blank : LaunchConfig.blanks.lookup name = some .null) :
      optional? (completed LaunchConfig.blanks members) name text? =
        optional? members name text? :=
    optional?_completed blank
  have startPort : optional? (completed LaunchConfig.blanks members) "start_port" port? =
      optional? members "start_port" port? :=
    optional?_completed rfl
  have roles (name : String)
      (blank : LaunchConfig.blanks.lookup name = some RoleSpec.unset.toJson) :
      defaulted? (completed LaunchConfig.blanks members) name .unset RoleSpec.ofJson? =
        defaulted? members name .unset RoleSpec.ofJson? :=
    defaulted?_completed blank rfl
  have mode : defaulted? (completed LaunchConfig.blanks members) "mode" .unset
      (choice? DistributedMode.ofName?) =
        defaulted? members "mode" .unset (choice? DistributedMode.ofName?) :=
    defaulted?_completed rfl (choice?_mode .unset)
  have arguments : defaulted? (completed LaunchConfig.blanks members) "training_script_args" []
      (list? text?) = defaulted? members "training_script_args" [] (list? text?) :=
    defaulted?_completed rfl rfl
  have device : defaulted? (completed LaunchConfig.blanks members) "heter_worker_device" .gpu
      (choice? DeviceKind.ofName?) =
        defaulted? members "heter_worker_device" .gpu (choice? DeviceKind.ofName?) :=
    defaulted?_completed rfl (choice?_kind .gpu)
  rw [mode, texts "log_dir" rfl, texts "interpreter" rfl, script, arguments, texts "ips" rfl,
    texts "gpus" rfl, texts "node_ip" rfl, startPort, roles "servers" rfl, roles "workers" rfl,
    roles "heter_workers" rfl, device]

end Completion

section Printing

theorem Json.isPlain_ofOption {α : Type} {depth : Nat} {encode : α → Json} (value : Option α)
    (plain : ∀ inner, IsPlain depth (encode inner)) : IsPlain depth (ofOption encode value) := by
  cases value with
  | none => cases depth <;> exact trivial
  | some inner => exact plain inner

theorem Json.isPlain_ofDevices (spare : Nat) (devices : List DeviceId) :
    IsPlain (spare + 1) (ofDevices devices) := by
  simp [ofDevices, IsPlain]

theorem Endpoint.isPlain_toJson (spare : Nat) (endpoint : Endpoint) :
    IsPlain (spare + 1) endpoint.toJson := by
  simp [Endpoint.toJson, IsPlain, ofPort]

theorem RoleProcess.isPlain_toJson (spare : Nat) (process : RoleProcess) :
    IsPlain (spare + 2) process.toJson := by
  have devices := isPlain_ofDevices spare process.devices
  have endpoint := process.endpoint.isPlain_toJson spare
  simp [RoleProcess.toJson, IsPlain, ofCount, devices, endpoint]

theorem Pod.isPlain_toJson (spare : Nat) (pod : Pod) : IsPlain (spare + 4) pod.toJson := by
  have devices := isPlain_ofDevices (spare + 2) pod.devices
  have port : IsPlain (spare + 3) (ofOption ofPort pod.port) :=
    isPlain_ofOption pod.port fun _ => trivial
  have processes (process : RoleProcess) := process.isPlain_toJson spare
  simp [Pod.toJson, IsPlain, ofCount, devices, port, processes]

theorem Cluster.isPlain_toJson (spare : Nat) (cluster : Cluster) :
    IsPlain (spare + 6) cluster.toJson := by
  have server : IsPlain (spare + 5) (ofOption Endpoint.toJson cluster.jobServer) :=
    isPlain_ofOption cluster.jobServer fun endpoint => endpoint.isPlain_toJson (spare + 4)
  have stage : IsPlain (spare + 5) (ofOption .text cluster.jobStage) :=
    isPlain_ofOption cluster.jobStage fun _ => trivial
  have pods (pod : Pod) := pod.isPlain_toJson spare
  simp [Cluster.toJson, IsPlain, server, stage, pods]

theorem ParameterServer.RoleSpec.isPlain_toJson (spare : Nat) (spec : RoleSpec) :
    IsPlain (spare + 1) spec.toJson := by
  have count : IsPlain spare (ofOption ofCount spec.count) :=
    isPlain_ofOption spec.count fun _ => by cases spare <;> exact trivial
  have endpoints : IsPlain spare (ofOption .text spec.endpoints) :=
    isPlain_ofOption spec.endpoints fun _ => by cases spare <;> exact trivial
  simp [RoleSpec.toJson, IsPlain, count, endpoints]

theorem LaunchConfig.isPlain_toJson (spare : Nat) (config : LaunchConfig) :
    IsPlain (spare + 2) config.toJson := by
  have texts (text : Option String) : IsPlain (spare + 1) (ofOption .text text) :=
    isPlain_ofOption text fun _ => trivial
  have port : IsPlain (spare + 1) (ofOption ofPort config.startPort) :=
    isPlain_ofOption config.startPort fun _ => trivial
  have roles (spec : RoleSpec) := spec.isPlain_toJson spare
  simp [LaunchConfig.toJson, IsPlain, texts, port, roles]

end Printing

/-- **Clusters and job descriptions survive being written as JSON.** A cluster is read back from its
JSON value, in every member, if and only if its ranks have 64 bits; and its value is read back from
what is printed. So is the job server, though clusters that differ only there agree. A description
is read back if and only if its counts have 64 bits, and its value is read back from what is
printed. Members of a description that may be missing may as well be there: null if they are
optional, else what stands for them. So may those of a role's description. -/
theorem LaunchConfig.json_roundTrips :
    (∀ cluster : Cluster, (Cluster.ofJson? cluster.toJson = some cluster ↔ cluster.IsRanked) ∧
      (∀ spare, read (spare + 6) (pretty "" cluster.toJson) = some cluster.toJson) ∧
      ∀ jobServer, cluster.agrees { cluster with jobServer } = true) ∧
    (∀ config : LaunchConfig,
      (LaunchConfig.ofJson? config.toJson = some config ↔ config.IsCounted) ∧
        ∀ spare, read (spare + 2) (pretty "" config.toJson) = some config.toJson) ∧
    (∀ members : List (String × Json),
      LaunchConfig.ofJson? (.object (completed LaunchConfig.blanks members)) =
        LaunchConfig.ofJson? (.object members)) ∧
    ∀ members : List (String × Json),
      RoleSpec.ofJson? (.object (completed RoleSpec.blanks members)) =
        RoleSpec.ofJson? (.object members) := by
  refine ⟨fun cluster => ⟨cluster.ofJson?_toJson_eq_some_iff, fun spare => ?_, fun server => ?_⟩,
    fun config => ⟨config.ofJson?_toJson_eq_some_iff, fun spare => ?_⟩,
    LaunchConfig.ofJson?_completed, RoleSpec.ofJson?_completed⟩
  · exact read_pretty (cluster.isPlain_toJson spare)
  · simp [Cluster.agrees]
  · exact read_pretty (config.isPlain_toJson spare)

end TrainingLauncher
