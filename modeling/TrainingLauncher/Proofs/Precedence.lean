/-
Which settings a job runs with. The options come first, then the stored defaults, then the settings
of a job of which nothing is said. To store options and to launch over them later is to launch over
what was stored before, with both sets of options.

* `Defaults.merge_assoc`, `Defaults.merge_empty`, `Defaults.empty_merge`: defaults on top of
  defaults.
* `Defaults.applyTo_merge`: they are put into a job one after the other.
* `Options.launchConfig_layered`: the settings of a job, layer by layer.
* `Stored.runs_save`, `Stored.Loads`, `Stored.runs_load`: how defaults are stored, and how they are
  looked for later.
* `Invocation.options_before_stored`: the laws together.
-/

import TrainingLauncher.CommandLine.Execution
import TrainingLauncher.Proofs.Exchange

namespace TrainingLauncher

open Program

namespace Defaults

section Merge

variable (first second third : Defaults)

theorem merge_assoc : (first.merge second).merge third = first.merge (second.merge third) := by
  simp only [merge, Option.or_assoc]

@[simp] theorem merge_empty : first.merge empty = first := by
  simp only [merge, empty, Option.none_or]

@[simp] theorem empty_merge : empty.merge first = first := by
  simp only [merge, empty, Option.or_none]

/-- **Defaults on top of defaults are put into a job one after the other.** -/
theorem applyTo_merge (config : LaunchConfig) :
    (first.merge second).applyTo config = second.applyTo (first.applyTo config) := by
  simp only [merge, applyTo, Option.getD_or, Option.or_assoc]

end Merge

end Defaults

section Layers

/-- What the topmost of three layers says that says anything. -/
def topmost : Option α → Option α → Option α → Option α
  | some value, _, _ => some value
  | none, some value, _ => some value
  | none, none, lowest => lowest

theorem topmost_eq_or (upper middle lowest : Option α) :
    topmost upper middle lowest = (upper.or middle).or lowest := by
  cases upper <;> cases middle <;> rfl

/-- Where the lowest layer always says something, so do the three together. -/
theorem topmost_some (upper middle : Option α) (lowest : α) :
    topmost upper middle (some lowest) = some ((upper.or middle).getD lowest) := by
  rw [topmost_eq_or, Option.or_some]

/-- Each setting that can be stored is the one of `given`, else the one of `stored`, else the one of
`standard`. -/
structure LaunchConfig.IsLayered (config : LaunchConfig) (given stored : Defaults)
    (standard : LaunchConfig) : Prop where
  mode : some config.mode = topmost given.mode stored.mode (some standard.mode)
  logDir : config.logDir = topmost given.logDir stored.logDir standard.logDir
  interpreter : config.interpreter =
    topmost given.interpreter stored.interpreter standard.interpreter
  startPort : config.startPort = topmost given.startPort stored.startPort standard.startPort
  ips : config.ips = topmost given.ips stored.ips standard.ips
  gpus : config.gpus = topmost given.gpus stored.gpus standard.gpus
  heterWorkerDevice : some config.heterWorkerDevice =
    topmost given.heterWorkerDevice stored.heterWorkerDevice (some standard.heterWorkerDevice)

end Layers

namespace CommandLine

namespace Options

/-- **The options come first, then the stored defaults, then what holds of every job.** The level of
detail in the log does not matter. -/
theorem launchConfig_layered (options : Options) (stored : Defaults) (logLevel : Option String)
    (script : String) (arguments : List String) :
    (options.launchConfig (stored.merge (options.asDefaults logLevel)) script arguments).IsLayered
      options.stored stored (.ofScript script) where
  mode := (topmost_some ..).symm
  logDir := (topmost_eq_or ..).symm
  interpreter := (topmost_eq_or ..).symm
  startPort := (topmost_eq_or ..).symm
  ips := (topmost_eq_or ..).symm
  gpus := (topmost_eq_or ..).symm
  heterWorkerDevice := (topmost_some ..).symm

/-- Two sets of options in one: what `upper` leaves open is as in `lower`. The node and the roles
are never stored, so they are those of `upper`. -/
def overriddenBy (lower upper : Options) : Options :=
  { upper with stored := lower.stored.merge upper.stored }

/-- Options on top of defaults that other options are part of. -/
theorem launchConfig_overriddenBy (lower upper : Options) (stored : Defaults)
    (logLevel lowerLevel upperLevel : Option String) (script : String) (arguments : List String) :
    upper.launchConfig ((stored.merge (lower.asDefaults lowerLevel)).merge
        (upper.asDefaults upperLevel)) script arguments =
      (lower.overriddenBy upper).launchConfig
        (stored.merge ((lower.overriddenBy upper).asDefaults logLevel)) script arguments := by
  rw [Defaults.merge_assoc]
  rfl

end Options

namespace Stored

variable {node : Node} {exchanges : List Exchange} {path : String}

/-- To store defaults is to write them into the file that is named, once its directory is there. -/
theorem runs_save {defaults : Defaults} :
    Runs (save node defaults) exchanges (.ok path) ↔
      path? node = some path ∧ ∃ directory, ownDirectory? node = some directory ∧
        exchanges = [⟨.createDirectory directory, .ok ()⟩,
          ⟨.writeFile path (Toml.written defaults), .ok ()⟩] := by
  constructor
  · intro ran
    rw [save] at ran
    split at ran
    · rename_i directory named owned here
      obtain ⟨made, afterwards, rfl, ran'⟩ := runs_ask.mp ran
      cases made with
      | error error => cases (runs_pure.mp ran').2
      | ok =>
        obtain ⟨replaced, rest, rfl, ended⟩ := runs_ask.mp ran'
        cases replaced with
        | error error => cases (runs_pure.mp ended).2
        | ok =>
          obtain ⟨rfl, same⟩ := runs_pure.mp ended
          cases same
          exact ⟨here, directory, owned, rfl⟩
    · cases (runs_pure.mp ran).2
  · rintro ⟨here, directory, owned, rfl⟩
    rw [save, owned, here]
    exact runs_ask.mpr ⟨.ok (), _, rfl, runs_ask.mpr ⟨.ok (), _, rfl, runs_pure.mpr ⟨rfl, rfl⟩⟩⟩

/-- What comes of looking for stored defaults: what is said, and the defaults. The operator is told
of a file that is there and of no use, but not of one that is missing. -/
inductive Loads (node : Node) : List Exchange → Defaults → Prop
  | nowhere (homeless : path? node = none) : Loads node [] .empty
  | missing {path : String} (named : path? node = some path) :
      Loads node [⟨.fileExists path, false⟩] .empty
  | unreadable {path : String} (error : IoError) (named : path? node = some path) :
      Loads node [⟨.fileExists path, true⟩, ⟨.readFile path, .error error⟩,
        ⟨.complain ("Ignoring config file: " ++ ("IO error: " ++ error.text)), ()⟩] .empty
  | misunderstood {path text : String} (named : path? node = some path)
      (senseless : Toml.defaults? text = none) :
      Loads node [⟨.fileExists path, true⟩, ⟨.readFile path, .ok text⟩,
        ⟨.complain "Ignoring config file: parse error", ()⟩] .empty
  | found {path text : String} {defaults : Defaults} (named : path? node = some path)
      (understood : Toml.defaults? text = some defaults) :
      Loads node [⟨.fileExists path, true⟩, ⟨.readFile path, .ok text⟩] defaults

theorem loads_of_runs {loaded : Defaults} (ran : Runs (load node) exchanges loaded) :
    Loads node exchanges loaded := by
  cases named : path? node with
  | none =>
    simp only [load, named] at ran
    obtain ⟨rfl, rfl⟩ := runs_pure.mp ran
    exact .nowhere named
  | some path =>
    simp only [load, named] at ran
    obtain ⟨there, rest, rfl, after⟩ := runs_ask.mp ran
    cases there with
    | false =>
      obtain ⟨rfl, rfl⟩ := runs_pure.mp after
      exact .missing named
    | true =>
      obtain ⟨read, last, rfl, ended⟩ := runs_ask.mp after
      cases read with
      | error error =>
        obtain ⟨_, _, rfl, done⟩ := runs_ask.mp ended
        obtain ⟨rfl, rfl⟩ := runs_pure.mp done
        exact .unreadable error named
      | ok text =>
        cases known : Toml.defaults? text with
        | none =>
          simp only [known] at ended
          obtain ⟨_, _, rfl, done⟩ := runs_ask.mp ended
          obtain ⟨rfl, rfl⟩ := runs_pure.mp done
          exact .misunderstood named known
        | some defaults =>
          simp only [known] at ended
          obtain ⟨rfl, rfl⟩ := runs_pure.mp ended
          exact .found named known

theorem Loads.runs {loaded : Defaults} (loads : Loads node exchanges loaded) :
    Runs (load node) exchanges loaded := by
  cases loads with
  | nowhere homeless =>
    simp only [load, homeless]
    exact runs_pure.mpr ⟨rfl, rfl⟩
  | missing named =>
    simp only [load, named]
    exact runs_ask.mpr ⟨false, _, rfl, runs_pure.mpr ⟨rfl, rfl⟩⟩
  | unreadable error named =>
    simp only [load, named]
    refine runs_ask.mpr ⟨true, _, rfl, runs_ask.mpr ⟨.error error, _, rfl, ?_⟩⟩
    exact runs_ask.mpr ⟨(), _, rfl, runs_pure.mpr ⟨rfl, rfl⟩⟩
  | @misunderstood path text named senseless =>
    simp only [load, named]
    refine runs_ask.mpr ⟨true, _, rfl, runs_ask.mpr ⟨.ok text, _, rfl, ?_⟩⟩
    simp only [senseless]
    exact runs_ask.mpr ⟨(), _, rfl, runs_pure.mpr ⟨rfl, rfl⟩⟩
  | @found path text _ named understood =>
    simp only [load, named]
    refine runs_ask.mpr ⟨true, _, rfl, runs_ask.mpr ⟨.ok text, _, rfl, ?_⟩⟩
    simp only [understood]
    exact runs_pure.mpr ⟨rfl, rfl⟩

/-- **Looking for stored defaults goes in one of these ways.** -/
theorem runs_load {loaded : Defaults} :
    Runs (load node) exchanges loaded ↔ Loads node exchanges loaded :=
  ⟨loads_of_runs, Loads.runs⟩

/-- Whoever finds defaults in the file goes by them. -/
theorem Loads.loaded_eq {loaded defaults : Defaults} {text : String}
    (loads : Loads node exchanges loaded) (read : ⟨.readFile path, .ok text⟩ ∈ exchanges)
    (understood : Toml.defaults? text = some defaults) : loaded = defaults := by
  cases loads with
  | nowhere | missing | unreadable => simp at read
  | misunderstood named senseless =>
    obtain ⟨rfl, rfl⟩ : path = _ ∧ text = _ := by simpa using read
    cases senseless.symm.trans understood
  | found named known =>
    obtain ⟨rfl, rfl⟩ : path = _ ∧ text = _ := by simpa using read
    exact Option.some.inj (known.symm.trans understood)

end Stored

namespace Invocation

/-- A command line that stores its options puts them into the file, on top of what was stored. -/
theorem run_saves {saving : Invocation} {stored : Defaults} {node : Node} {passes : Nat}
    {exchanges : List Exchange} (saves : saving.action = .config true)
    (ran : Runs (saving.run stored node passes) exchanges (.ok ())) :
    ∃ path, Stored.path? node = some path ∧
      ⟨.writeFile path (Toml.written (saving.defaults stored)), .ok ()⟩ ∈ exchanges := by
  simp only [run, saves, runConfig, if_true] at ran
  obtain ⟨first, second, result, rfl, saved, ended⟩ := (runs_bind _ _ _ _).mp ran
  cases result with
  | error failure => cases (runs_pure.mp ended).2
  | ok path =>
    obtain ⟨here, directory, -, rfl⟩ := Stored.runs_save.mp saved
    exact ⟨path, here, List.mem_append_left _ (List.mem_cons_of_mem _ List.mem_cons_self)⟩

/-- A job that is asked for over defaults which other options are part of. -/
theorem launchConfig?_overriddenBy (saving launching : Invocation) (stored : Defaults) :
    launching.launchConfig? (saving.defaults stored) =
      { launching with options := saving.options.overriddenBy launching.options }.launchConfig?
        stored := by
  rcases launching with ⟨logLevel, options, action⟩
  cases action with
  | launch script arguments =>
    exact congrArg some (Options.launchConfig_overriddenBy _ _ _ none _ _ _ _)
  | topology => exact congrArg some (Options.launchConfig_overriddenBy _ _ _ none _ _ _ _)
  | config save => rfl

/-- **The options come before the stored defaults, and these before the rest.** Every setting that
can be stored is the option, else what is stored, else what holds of every job; the node and the
roles come from the options alone, and the script and its arguments are taken as they are. Defaults
on top of defaults may be grouped in any way, and putting them into a job is putting in one after
the other. So when options were stored, and the file is read back as it was written, a later command
line asks for the job that both sets of options ask for over what was stored before. -/
theorem options_before_stored :
    (∀ (options : Options) (stored : Defaults) (logLevel : Option String) (script : String)
      (arguments : List String) (config : LaunchConfig),
      config = options.launchConfig (stored.merge (options.asDefaults logLevel)) script arguments →
      config.IsLayered options.stored stored (.ofScript script) ∧
        config.nodeIp = options.nodeIp ∧ config.servers = options.servers ∧
        config.workers = options.workers ∧ config.heterWorkers = options.heterWorkers ∧
        config.trainingScript = script ∧ config.trainingScriptArgs = arguments) ∧
    (∀ first second third : Defaults,
      (first.merge second).merge third = first.merge (second.merge third)) ∧
    (∀ defaults : Defaults, defaults.merge .empty = defaults ∧
      Defaults.empty.merge defaults = defaults) ∧
    (∀ (lower upper : Defaults) (config : LaunchConfig),
      (lower.merge upper).applyTo config = upper.applyTo (lower.applyTo config)) ∧
    ∀ (saving launching : Invocation) (stored loaded : Defaults) (node later : Node)
      (passes : Nat) (saved read : List Exchange), saving.action = .config true →
      Runs (saving.run stored node passes) saved (.ok ()) → Runs (Stored.load later) read loaded →
      ∃ path, Stored.path? node = some path ∧
        ⟨.writeFile path (Toml.written (saving.defaults stored)), .ok ()⟩ ∈ saved ∧
        (Stored.path? later = some path →
          ⟨.readFile path, .ok (Toml.written (saving.defaults stored))⟩ ∈ read →
          Toml.defaults? (Toml.written (saving.defaults stored)) = some (saving.defaults stored) →
          launching.launchConfig? loaded =
            { launching with
              options := saving.options.overriddenBy launching.options }.launchConfig? stored) := by
  refine ⟨?_, Defaults.merge_assoc, fun defaults => ⟨defaults.merge_empty, defaults.empty_merge⟩,
    Defaults.applyTo_merge, ?_⟩
  · rintro options stored logLevel script arguments _ rfl
    exact ⟨options.launchConfig_layered .., rfl, rfl, rfl, rfl, rfl, rfl⟩
  · intro saving launching stored loaded node later passes saved read saves ran loads
    obtain ⟨path, here, written⟩ := run_saves saves ran
    refine ⟨path, here, written, fun _ found understood => ?_⟩
    rw [(Stored.runs_load.mp loads).loaded_eq found understood, launchConfig?_overriddenBy]

/-- A command line that stores a mode and a port. -/
def savingMode : Invocation where
  logLevel := some "debug"
  options := { Options.empty with stored := { Defaults.empty with
    mode := some .ps, startPort := some 7000 } }
  action := .config true

/-- A later one that asks for another port. -/
def launchingElsewhere : Invocation where
  logLevel := none
  options := { Options.empty with stored := { Defaults.empty with startPort := some 8000 } }
  action := .launch "train.py" ["--epochs", "3"]

/-- What was stored before. -/
def earlierDefaults : Defaults :=
  { Defaults.empty with gpus := some "0,1", startPort := some 6170 }

/-- A node with a place to store defaults. -/
def homeNode : Node where
  environment := .ofList [("HOME", "/root")]
  accountHome := none
  resolver := ⟨none, none⟩
  deviceFiles := []
  probes := []

theorem options_before_stored_launchingElsewhere : ∃ path saved,
    Runs (savingMode.run earlierDefaults homeNode 0) saved (.ok ()) ∧
      ⟨.writeFile path (Toml.written (savingMode.defaults earlierDefaults)), .ok ()⟩ ∈ saved ∧
      launchingElsewhere.launchConfig? (savingMode.defaults earlierDefaults) =
        some { LaunchConfig.ofScript "train.py" with
          trainingScriptArgs := ["--epochs", "3"]
          mode := .ps
          startPort := some 8000
          gpus := some "0,1" } := by
  have here : Stored.path? homeNode = some "/root/.config/fleetrun/config.toml" := by
    decide +kernel
  have owned : Stored.ownDirectory? homeNode = some "/root/.config/fleetrun" := by
    decide +kernel
  have ran : Runs (savingMode.run earlierDefaults homeNode 0) _ (.ok ()) :=
    (runs_bind _ _ _ _).mpr ⟨_, _, _, rfl, Stored.runs_save.mpr ⟨here, _, owned, rfl⟩,
      runs_ask.mpr ⟨(), _, rfl, runs_pure.mpr ⟨rfl, rfl⟩⟩⟩
  have understood : Toml.defaults? (Toml.written (savingMode.defaults earlierDefaults)) =
      some (savingMode.defaults earlierDefaults) := by
    decide +kernel
  have loads : Runs (Stored.load homeNode)
      [⟨.fileExists "/root/.config/fleetrun/config.toml", true⟩,
        ⟨.readFile "/root/.config/fleetrun/config.toml",
          .ok (Toml.written (savingMode.defaults earlierDefaults))⟩]
      (savingMode.defaults earlierDefaults) :=
    Stored.runs_load.mpr (.found here understood)
  obtain ⟨path, named, written, agree⟩ := options_before_stored.2.2.2.2 savingMode
    launchingElsewhere earlierDefaults _ homeNode homeNode 0 _ _ rfl ran loads
  cases here.symm.trans named
  exact ⟨_, _, ran, written, agree here (List.mem_cons_of_mem _ List.mem_cons_self) understood⟩

end Invocation

end CommandLine

end TrainingLauncher
