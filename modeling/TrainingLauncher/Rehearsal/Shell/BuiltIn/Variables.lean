/-
The commands of a shell about variables and arguments: which variables programs inherit, which
cannot be changed, which are a function's own, and how they are read from the input.
-/

import TrainingLauncher.Rehearsal.Shell.BuiltIn
import TrainingLauncher.Rehearsal.Shell.Expansion

namespace TrainingLauncher.Rehearsal.Shell

section Names

/-- The name of a variable, which must be one. -/
def variableName (name : String) : Conduct String := do
  if isName name then return name else refuse (name ++ ": bad variable name")

/-- Sets a variable if its name is one. -/
def assignNamed (name value : String) : Conduct Unit := do
  assign (← variableName name) value false

/-- The name and the value of a word, which has a value if there is an equals sign in it. -/
def splitSetting (word : String) : String × Option String :=
  let name := word.toList.takeWhile (· != '=')
  match word.toList.drop name.length with
  | _ :: value => (String.ofList name, some (String.ofList value))
  | [] => (word, none)

/-- The variable of a name, or one that has no value. -/
def State.variable (state : State) (name : String) : Variable :=
  (state.findVariable? name).getD ⟨name, none, false, false⟩

/-- Variables as commands that set them, in the order of their names. -/
def State.settings (state : State) (start : String) (chosen : Variable → Bool) : String :=
  let lines := (state.bindings.filter chosen).map fun entry =>
    match entry.value with
    | some value => (entry.name, start ++ entry.name ++ "=" ++ singleQuoted value ++ "\n")
    | none => (entry.name, start ++ entry.name ++ "\n")
  String.join ((lines.mergeSort fun one other => !(other.1 < one.1)).map (·.2))

end Names

section Marks

/-- Marks variables, which may be set first. -/
def markAll (mark : Variable → Variable) : List String → Conduct Unit
  | [] => return
  | word :: rest => do
    let (name, value) := splitSetting word
    let name ← variableName name
    match value with
    | some value => assign name value false
    | none => pure ()
    modify fun state => state.put (mark (state.variable name))
    markAll mark rest

/-- Marks variables, or shows the ones that are marked. -/
def marking (command : String) (isMarked : Variable → Bool) (mark : Variable → Variable) :
    BuiltIn := fun words => do
  let (letters, names) ← options "p" words
  if names.isEmpty || !letters.isEmpty then
    return ⟨0, (← get).settings (command ++ " ") isMarked⟩
  else
    markAll mark names
    return .silent 0

/-- Has programs inherit variables. -/
def exportVariables : BuiltIn :=
  marking "export" (·.isExported) ({ · with isExported := true })

/-- Makes variables such that they cannot be changed. -/
def protectVariables : BuiltIn :=
  marking "readonly" (·.isReadonly) ({ · with isReadonly := true })

/-- Removes variables. -/
def unsetVariables : List String → Conduct Unit
  | [] => return
  | name :: rest => do
    let name ← variableName name
    if ((← get).findVariable? name).any (·.isReadonly) then refuse (name ++ ": is read only")
    modify (·.drop name)
    unsetVariables rest

/-- Removes variables or functions. -/
def unset : BuiltIn := fun words => do
  let (letters, names) ← options "vf" words
  if letters.getLast?.any (·.1 == 'f') then
    modify fun state =>
      { state with functions := state.functions.filter fun entry => !names.contains entry.1 }
  else unsetVariables names
  return .silent 0

end Marks

section Shadows

/-- Begins a part in which variables are its own. -/
def enterShadows : Conduct Unit :=
  modify fun state => { state with shadowed := [] :: state.shadowed }

/-- Keeps what a variable is, to be brought back. -/
def shadow (name : String) : Conduct Unit :=
  modify fun state =>
    match state.shadowed with
    | innermost :: others =>
      { state with shadowed := ((name, state.findVariable? name) :: innermost) :: others }
    | [] => state

/-- Ends such a part: the variables are what they were before. -/
def leaveShadows : Conduct Unit :=
  modify fun state =>
    match state.shadowed with
    | innermost :: others =>
      innermost.foldl (fun state (name, before) =>
        match before with
        | some entry => state.put entry
        | none => state.drop name) { state with shadowed := others }
    | [] => state

/-- Makes variables a function's own. -/
def makeLocal : List String → Conduct Unit
  | [] => return
  | word :: rest => do
    let (name, value) := splitSetting word
    let name ← variableName name
    shadow name
    match value with
    | some value => assign name value false
    | none => modify fun state => state.put (state.variable name)
    makeLocal rest

/-- Makes variables a function's own. -/
def localVariables : BuiltIn := fun words => do
  if (← get).shadowed.isEmpty then refuse "not in a function"
  makeLocal words
  return .silent 0

end Shadows

section Settings

/-- An option of a shell: its name, its letter, and its place if it means something here. -/
structure Setting where
  name : String
  letter : Option Char
  get : Options → Bool
  set : Bool → Options → Options

/-- An option that means nothing here. -/
def Setting.idle (name : String) (letter : Option Char) : Setting :=
  ⟨name, letter, fun _ => false, fun _ options => options⟩

/-- The options of a shell. -/
def settings : List Setting := [
  ⟨"errexit", some 'e', (·.careful), fun on options => { options with careful := on }⟩,
  ⟨"noglob", some 'f', (·.literal), fun on options => { options with literal := on }⟩,
  .idle "ignoreeof" (some 'I'),
  .idle "interactive" (some 'i'),
  .idle "monitor" (some 'm'),
  ⟨"noexec", some 'n', (·.idle), fun on options => { options with idle := on }⟩,
  .idle "stdin" (some 's'),
  ⟨"xtrace", some 'x', (·.traced), fun on options => { options with traced := on }⟩,
  ⟨"verbose", some 'v', (·.echoing), fun on options => { options with echoing := on }⟩,
  .idle "vi" (some 'V'),
  .idle "emacs" (some 'E'),
  ⟨"noclobber", some 'C', (·.cautious), fun on options => { options with cautious := on }⟩,
  ⟨"allexport", some 'a', (·.exporting), fun on options => { options with exporting := on }⟩,
  .idle "notify" (some 'b'),
  ⟨"nounset", some 'u', (·.strict), fun on options => { options with strict := on }⟩,
  .idle "privileged" (some 'p'),
  .idle "nolog" none,
  .idle "debug" none]

/-- Turns options on or off, by their letters. -/
def setLetters (on : Bool) : List Char → Conduct Unit
  | [] => return
  | letter :: rest => do
    match settings.find? (·.letter == some letter) with
    | some setting =>
      modify fun state => { state with options := setting.set on state.options }
      setLetters on rest
    | none => refuse ("Illegal option -" ++ letter.toString)

/-- Turns an option on or off, by its name. -/
def setNamed (on : Bool) (name : String) : Conduct Unit := do
  match settings.find? (·.name == name) with
  | some setting => modify fun state => { state with options := setting.set on state.options }
  | none => refuse ("Illegal option -o " ++ name)

/-- A text with spaces up to a width. -/
def padded (width : Nat) (text : String) : String :=
  text ++ String.ofList (List.replicate (width - text.length) ' ')

/-- The options as a shell shows them, or as commands that turn them on and off. -/
def Options.shown (options : Options) (asCommands : Bool) : String :=
  let lines := settings.map fun setting =>
    let on := setting.get options
    if asCommands then "set " ++ (if on then "-o " else "+o ") ++ setting.name ++ "\n"
    else padded 16 setting.name ++ (if on then "on" else "off") ++ "\n"
  (if asCommands then "" else "Current option settings\n") ++ String.join lines

/-- Reads the options among words; what is left are arguments, if there are any to be set. -/
def readSettings : (bound : Nat) → List String → String → Conduct (Option (List String) × String)
  | 0, _, shown | _, [], shown => return (none, shown)
  | bound + 1, word :: rest, shown => do
    match word.toList with
    | ['-'] =>
      modify fun state => { state with options :=
        { state.options with traced := false, echoing := false } }
      return (if rest.isEmpty then none else some rest, shown)
    | ['-', '-'] => return (some rest, shown)
    | sign :: letters =>
      if sign != '-' && sign != '+' then return (some (word :: rest), shown)
      else
        let on := sign == '-'
        let before := letters.takeWhile (· != 'o')
        setLetters on before
        if before.length = letters.length then readSettings bound rest shown
        else
          let after := letters.drop (before.length + 1)
          match rest with
          | [] => return (none, shown ++ (← get).options.shown (!on))
          | name :: rest =>
            setNamed on name
            setLetters on after
            readSettings bound rest shown
    | [] => return (some (word :: rest), shown)

/-- Turns options on and off and sets the arguments, or shows the variables. -/
def setOptions : BuiltIn := fun words => do
  if words.isEmpty then return ⟨0, (← get).settings "" (·.value.isSome)⟩
  else
    let (arguments, shown) ← readSettings (words.length + 1) words ""
    match arguments with
    | some arguments => modify ({ · with arguments, optionPlace := 0 })
    | none => pure ()
    return ⟨0, shown⟩

/-- Drops the first arguments. -/
def shift : BuiltIn := fun words => do
  let count ← (words.head?.map numberArgument).getD (return 1)
  let arguments := (← get).arguments
  if count > arguments.length then refuse "can't shift that many"
  modify ({ · with arguments := arguments.drop count, optionPlace := 0 })
  return .silent 0

end Settings

section Reading

/-- Reads a line byte by byte: its characters, each with whether a backslash stands before it, and
whether there was a line break. -/
def readCharacters (raw : Bool) :
    (bound : Nat) → (escaped : Bool) → List (Char × Bool) → Conduct (List (Char × Bool) × Bool)
  | 0, _, sofar => return (sofar.reverse, false)
  | bound + 1, escaped, sofar => do
    match ← ask (.read 0 1) with
    | .error _ => return (sofar.reverse, false)
    | .ok bytes =>
      match bytes.toList with
      | [] => return (sofar.reverse, false)
      | byte :: _ =>
        let char := Char.ofNat byte.toNat
        if char = '\x00' then readCharacters raw bound escaped sofar
        else if escaped then
          if char = '\n' then readCharacters raw bound false sofar
          else readCharacters raw bound false ((char, true) :: sofar)
        else if char = '\\' && !raw then readCharacters raw bound true sofar
        else if char = '\n' then return (sofar.reverse, true)
        else readCharacters raw bound false ((char, false) :: sofar)

/-- The words of a line. -/
def lineWords (separators : String) (line : List (Char × Bool)) : List String :=
  (fields separators none .nothing
    (line.map fun (char, escaped) => .glyph ⟨char, escaped⟩ !escaped)).map glyphText

/-- The first word of a line, and what follows the separators after it. -/
def firstWord (separators : String) (line : List (Char × Bool)) :
    String × List (Char × Bool) :=
  let splits (entry : Char × Bool) : Bool := !entry.2 && separators.contains entry.1
  let isBlank (entry : Char × Bool) : Bool := splits entry && [' ', '\t', '\n'].contains entry.1
  let word := line.takeWhile (!splits ·)
  let after := (line.drop word.length).dropWhile isBlank
  let after :=
    match after with
    | entry :: rest => if splits entry then rest.dropWhile isBlank else after
    | [] => []
  (String.ofList (word.map (·.1)), after)

/-- What is left of a line as one word: without the blanks at its end, and without a separator that
only ends a word. -/
def lastWord (separators : String) (line : List (Char × Bool)) : String :=
  match lineWords separators line with
  | [] => ""
  | [word] => word
  | _ =>
    let isBlank (entry : Char × Bool) : Bool :=
      !entry.2 && separators.contains entry.1 && [' ', '\t', '\n'].contains entry.1
    String.ofList ((line.reverse.dropWhile isBlank).reverse.map (·.1))

/-- Sets variables to the words of a line; the last one takes what is left. -/
def assignWords (separators : String) : List String → List (Char × Bool) → Conduct Unit
  | [], _ => return
  | [name], line => assignNamed name (lastWord separators line)
  | name :: names, line => do
    let (word, rest) := firstWord separators line
    assignNamed name word
    assignWords separators names rest

/-- Reads a line into variables. -/
def readLine : BuiltIn := fun words => do
  let (letters, names) ← options "p:r" words
  if names.isEmpty then refuse "arg count"
  let (line, ended) ← readCharacters (letters.any (·.1 == 'r')) endless false []
  let separators ← separators
  let isBlank (entry : Char × Bool) : Bool :=
    !entry.2 && separators.contains entry.1 && [' ', '\t', '\n'].contains entry.1
  assignWords separators names (line.dropWhile isBlank)
  return .silent (if ended then 0 else 1)

end Reading

section Options

/-- What has been found out about the next option of some words. -/
structure NextOption where
  letter : Char
  value : Option String
  complaint : Option String
  /-- The number of the next word, and how far into the word before it options have been read. -/
  word : Nat
  place : Nat
  isOver : Bool

/-- Finds the next option of words. -/
def nextOption (known : String) (words : List String) (word place : Nat) : NextOption :=
  let current := if word ≤ 1 || place = 0 then "" else words.getD (word - 2) ""
  let left := current.toList.drop place
  let quiet := known.startsWith ":"
  let found (letter : Char) (rest : List Char) (next : Nat) (place : Nat) : NextOption :=
    let here := if rest.isEmpty then 0 else place
    match known.toList.dropWhile (· != letter) with
    | [] =>
      if quiet then ⟨'?', some letter.toString, none, next, here, false⟩
      else ⟨'?', none, some ("Illegal option -" ++ letter.toString), next, here, false⟩
    | _ :: ':' :: _ =>
      match rest, words[next - 1]? with
      | [], some value => ⟨letter, some value, none, next + 1, 0, false⟩
      | [], none =>
        if quiet then ⟨':', some letter.toString, none, next, 0, false⟩
        else ⟨'?', none, some ("No arg for -" ++ letter.toString ++ " option"), next, 0, false⟩
      | rest, _ => ⟨letter, some (String.ofList rest), none, next, 0, false⟩
    | _ => ⟨letter, some "", none, next, here, false⟩
  match left with
  | letter :: rest => found letter rest word (place + 1)
  | [] =>
    match (words.getD (word - 1) "").toList with
    | ['-', '-'] => ⟨'?', some "", none, word + 1, 0, true⟩
    | '-' :: letter :: rest => found letter rest (word + 1) 2
    | _ => ⟨'?', some "", none, word, 0, true⟩

/-- Reads the next option of the arguments into a variable. -/
def getOption : BuiltIn := fun words => do
  match ← withoutOptions words with
  | known :: name :: given => do
    let state ← get
    let words := if given.isEmpty then state.arguments else given
    let word := ((state.value? "OPTIND").bind Tool.natural?).getD 1
    let next := nextOption known words (max word 1) state.optionPlace
    match next.complaint with
    | some complaint =>
      writeTo 2 (complaint ++ "\n")
      modify (·.drop "OPTARG")
    | none =>
      if !next.isOver then assign "OPTARG" (next.value.getD "") false
    assign "OPTIND" (toString next.word) false
    assignNamed name next.letter.toString
    modify ({ · with optionPlace := next.place })
    return .silent (if next.isOver then 1 else 0)
  | _ => refuse "Usage: getopts optstring var [arg...]"

end Options

end TrainingLauncher.Rehearsal.Shell
