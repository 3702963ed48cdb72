/-
How the words of a command line are read from left to right, on the level of the launcher itself or
of one of its subcommands.

* A word that starts with dashes is an option, unless an option before it waits for its value and
  the word is no option either.
* The value of an option is looked at when the next option or operand comes, or at the end, so that
  a word that is no option at all is reported first.
* Behind the script, the first word that is no option of the launcher starts the arguments of the
  script, which are all the words that follow.
* A lone double dash ends the options.
-/

import TrainingLauncher.CommandLine.Options

namespace TrainingLauncher.CommandLine

/-- A word by its form. -/
inductive Word where
  /-- Two dashes alone. -/
  | divider
  /-- Two dashes and a name, and what stands behind an equals sign. -/
  | long (name : String) (value : Option String)
  /-- One dash and letters. -/
  | short (first : Char) (others : List Char)
  | plain
  deriving DecidableEq, Repr

/-- The form of a word. -/
def Word.ofString (word : String) : Word :=
  match word.toList with
  | ['-', '-'] => .divider
  | '-' :: '-' :: chars =>
    let name := String.ofList (chars.takeWhile (· != '='))
    match chars.dropWhile (· != '=') with
    | [] => .long name none
    | _ :: value => .long name (some (String.ofList value))
  | '-' :: first :: others => .short first others
  | _ => .plain

/-- What the launcher is to do. -/
inductive Subcommand where
  | launch
  | topology
  | config
  deriving DecidableEq, Repr

namespace Subcommand

/-- The word for a subcommand. -/
def name : Subcommand → String
  | launch => "launch"
  | topology => "topology"
  | config => "config"

/-- Every subcommand. -/
def all : List Subcommand := [launch, topology, config]

/-- The subcommand that a word stands for. -/
def ofName? (word : String) : Option Subcommand := all.find? (·.name == word)

/-- The word that asks for help on a subcommand. -/
def help : String := "help"

/-- A word that stands for a subcommand or asks for help on one. -/
def isName (word : String) : Bool := (ofName? word).isSome || word == help

end Subcommand

/-- The launcher itself, before the word for a subcommand, or a subcommand. -/
abbrev Level := Option Subcommand

namespace Level

/-- A name that is understood. -/
inductive Known where
  | setting (setting : Setting)
  | save
  | help
  | version
  deriving DecidableEq, Repr

/-- The options that take a value. -/
def settings : Level → List Setting
  | none => [.logLevel]
  | some _ => .logLevel :: Setting.ofJob

/-- What a long name means. -/
def long? (level : Level) (name : String) : Option Known :=
  if name = "help" then some .help
  else if name = "version" ∧ level = none then some .version
  else if name = "save" ∧ level = some .config then some .save
  else (level.settings.find? (·.names.contains name)).map .setting

/-- What a letter means. -/
def short? (level : Level) (letter : Char) : Option Known :=
  if letter = 'h' then some .help
  else if letter = 'V' ∧ level = none then some .version
  else none

end Level

/-- What the words read so far have said. -/
structure Progress where
  options : Options
  /-- The latest option, not yet looked at, and its value as far as there is one. -/
  pending : Option (Setting × Option String)
  script : Option String
  arguments : List String

namespace Progress

/-- Nothing is read. -/
def start : Progress := ⟨.empty, none, none, []⟩

/-- The latest option waits for its value. -/
def isWaiting (progress : Progress) : Bool :=
  match progress.pending with
  | some (_, none) => true
  | _ => false

/-- Looks at the latest option. -/
def resolve (progress : Progress) : Except UsageFault Progress :=
  match progress.pending with
  | none => .ok progress
  | some (_, none) => .error .missingValue
  | some (setting, some value) =>
    match progress.options.set setting value with
    | .ok options => .ok { progress with options, pending := none }
    | .error fault => .error fault

/-- Takes a flag or the name of an option, with a value behind an equals sign. -/
def take (progress : Progress) (known : Level.Known) (value : Option String) :
    Except UsageFault Progress :=
  match known, value with
  | .setting setting, none => do
    return { ← progress.resolve with pending := some (setting, none) }
  | .setting setting, some value => do
    let resolved ← progress.resolve
    return { resolved with options := ← resolved.options.set setting value }
  | _, some _ => .error .unwantedValue
  | .help, none => do
    let _ ← progress.resolve
    .error .helpAsked
  | .version, none => do
    let _ ← progress.resolve
    .error .versionAsked
  | .save, none => do
    let resolved ← progress.resolve
    if resolved.options.save then .error .repeatedOption
    else return { resolved with options.save := true }

end Progress

/-- Where the words of a level end. -/
inductive Ending where
  /-- All words are read. -/
  | finished (progress : Progress)
  /-- A subcommand follows, with words of its own. -/
  | subcommand (name : String) (words : List String) (progress : Progress)

/-- Takes words that can only be operands. -/
def operands (level : Level) (progress : Progress) : List String → Except UsageFault Ending
  | [] => .ok (.finished progress)
  | word :: rest =>
    match level with
    | none => .error (if Subcommand.isName word then .unknownArgument else .unknownSubcommand)
    | some .launch => do
      let resolved ← progress.resolve
      match resolved.script with
      | none => return .finished { resolved with script := some word, arguments := rest }
      | some _ => return .finished { resolved with arguments := word :: rest }
    | some _ => .error .unknownArgument

/-- Behind the script, a word with dashes that is no option is no fault. -/
def admitsDashes (level : Level) (progress : Progress) : Bool :=
  level == some .launch && progress.script.isSome

/-- How a word is to be taken. -/
inductive Reading where
  /-- A subcommand starts. -/
  | subcommand
  | divider
  | option (known : Level.Known) (value : Option String)
  /-- The value of the option before it. -/
  | value (setting : Setting)
  | operand
  | unknown
  deriving DecidableEq, Repr

/-- How a word without meaning as an option is to be taken. -/
def readOther (progress : Progress) : Reading :=
  match progress.pending with
  | some (setting, none) => .value setting
  | _ => .operand

/-- How the next word is to be taken. -/
def reading (level : Level) (progress : Progress) (word : String) : Reading :=
  if level = none ∧ !progress.isWaiting ∧ Subcommand.isName word then .subcommand
  else
    match Word.ofString word with
    | .divider => .divider
    | .long name value =>
      match level.long? name with
      | some known => .option known value
      | none => if admitsDashes level progress then readOther progress else .unknown
    | .short first others =>
      if admitsDashes level progress && (first :: others).any fun letter =>
          (level.short? letter).isNone then
        readOther progress
      else
        match level.short? first with
        | some known => .option known none
        | none => .unknown
    | .plain => readOther progress

/-- Reads the words of a level. -/
def scan (level : Level) (progress : Progress) : List String → Except UsageFault Ending
  | [] => .ok (.finished progress)
  | word :: rest =>
    match reading level progress word with
    | .subcommand => .ok (.subcommand word rest progress)
    | .divider => operands level progress rest
    | .option known value => do scan level (← progress.take known value) rest
    | .value setting => scan level { progress with pending := some (setting, some word) } rest
    | .operand =>
      if level = some .launch ∧ progress.script.isNone then do
        scan level { ← progress.resolve with script := some word } rest
      else if level = none then .error .unknownSubcommand
      else operands level progress (word :: rest)
    | .unknown => .error .unknownArgument

end TrainingLauncher.CommandLine
