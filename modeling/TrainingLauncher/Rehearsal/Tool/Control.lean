/-
Programs that sleep, send signals, or run other programs: with another environment, for a limited
time, or with words from the input.
-/

import TrainingLauncher.Rehearsal.Shell.Arithmetic
import TrainingLauncher.Rehearsal.Shell.BuiltIn.Processes
import TrainingLauncher.Rehearsal.Shell.Lookup
import TrainingLauncher.Rehearsal.Tool.Files

namespace TrainingLauncher.Rehearsal.Tool

section Time

/-- A time that nobody outlasts, in milliseconds. -/
def forever : Nat := 1000000000000000

/-- A time in milliseconds: a number of seconds or of another unit. What is shorter than a
millisecond counts as one. -/
def duration? (word : String) : Option Nat :=
  if word = "infinity" || word = "inf" then some forever
  else
    let chars := word.toList
    let unit := chars.getLast?.getD '0'
    let (digits, scale) :=
      match unit with
      | 's' => (chars.dropLast, 1000)
      | 'm' => (chars.dropLast, 60000)
      | 'h' => (chars.dropLast, 3600000)
      | 'd' => (chars.dropLast, 86400000)
      | _ => (chars, 1000)
    let whole := digits.takeWhile Char.isDigit
    let places? :=
      match digits.drop whole.length with
      | [] => some []
      | '.' :: places => if places.all Char.isDigit then some places else none
      | _ => none
    match places? with
    | none => none
    | some places =>
      if whole.isEmpty && places.isEmpty then none
      else
        let units := (Shell.digits 10 0 (whole ++ places)).1 * scale
        let size := Nat.pow 10 places.length
        some ((units + size - 1) / size)

/-- Sleeps for the sum of times. -/
def sleep : Body τ := reading "" "" [] false 1 fun arguments usage => do
  let words := operands arguments
  let wrong := words.filter fun word => (duration? word).isNone
  match words, wrong.reverse with
  | [], _ => usage.refuseWithHelp 1 "missing operand"
  | _, last :: others =>
    others.reverse.forM fun word =>
      usage.complain ("invalid time interval " ++ quotedName word)
    usage.refuseWithHelp 1 ("invalid time interval " ++ quotedName last)
  | words, [] =>
    Activity.call (.sleep ((words.filterMap duration?).foldl (· + ·) 0))
    return 0

end Time

section Running

/-- The value of a variable of an environment. -/
def variableIn? (environment : List String) (name : String) : Option String :=
  environment.findSome? fun entry =>
    if entry.startsWith (name ++ "=") then
      some (String.ofList (entry.toList.drop (name.length + 1)))
    else none

/-- Where programs are looked for if no variable tells it. -/
def standardPath : String := "/bin:/usr/bin"

/-- Runs a command in place of what the process does; the answer is why it cannot be run. -/
def runInPlace (words environment : List String) : Activity Task IoError := do
  let searchPath := (variableIn? environment "PATH").getD standardPath
  Shell.tryPaths words environment .notFound (Shell.pathsOf searchPath (words.headD ""))

/-- The status of a program that cannot run another one. -/
def refusalStatus (error : IoError) : Nat := if error.kind = .notFound then 127 else 126

/-- Runs a command in place of what the process does, or tells that this cannot be done. -/
def replaceBy (usage : Usage) (how : String) (words environment : List String) :
    Activity Task Nat := do
  let error ← runInPlace words environment
  usage.complain (how ++ quotedName (words.headD "") ++ ": " ++ refusalWords error)
  return refusalStatus error

/-- An environment with an entry in place of the one of its name. -/
def withEntry (environment : List String) (entry : String) : List String :=
  let name := String.ofList (entry.toList.takeWhile (· != '='))
  let has (other : String) : Bool := other.startsWith (name ++ "=")
  if environment.any has then
    environment.map fun other => if has other then entry else other
  else environment ++ [entry]

/-- An environment without an entry. -/
def withoutEntry (environment : List String) (name : String) : List String :=
  environment.filter fun entry => !entry.startsWith (name ++ "=")

/-- Runs a command in a changed environment, or shows that. -/
def env : Body Task := fun usage =>
  let body := reading "i0v" "uC" [("ignore-environment", 'i'), ("unset", 'u'), ("chdir", 'C')] true
    125 fun arguments usage => do
      let words := operands arguments
      let (words, empties) :=
        if words.head? = some "-" then (words.tail, true) else (words, hasLetter 'i' arguments)
      let unset := arguments.filterMap fun argument =>
        match argument with
        | .letter 'u' value => value
        | _ => none
      let start := if empties then [] else usage.environment
      let settings := words.takeWhile fun word => word.contains '='
      let environment := settings.foldl withEntry (unset.foldl withoutEntry start)
      match valueOf? 'C' arguments with
      | some directory =>
        let _ ← Activity.call (.enter directory)
      | none => pure ()
      match words.drop settings.length with
      | [] =>
        print (unlines environment)
        return 0
      | command => replaceBy usage "" command environment
  body usage

/-- Shows variables of the environment. -/
def printenv : Body τ := reading "0" "" [] true 2 fun arguments usage => do
  match operands arguments with
  | [] =>
    print (unlines usage.environment)
    return 0
  | names =>
    let values := names.filterMap (variableIn? usage.environment)
    print (unlines values)
    return if values.length = names.length then 0 else 1

/-- Runs a command that does not mind the loss of its terminal. -/
def nohup : Body Task := reading "" "" [] true 125 fun arguments usage => do
  match operands arguments with
  | [] => usage.refuseWithHelp 125 "missing operand"
  | command =>
    let _ ← Activity.call (.arrange Signal.hangup .ignored)
    replaceBy usage "failed to run command " command usage.environment

/-- Runs a command with less urgency, or shows how urgent it is itself. -/
def nice : Body Task := reading "" "n" [("adjustment", 'n')] true 125 fun arguments usage => do
  match operands arguments with
  | [] =>
    print "0\n"
    return 0
  | command => replaceBy usage "" command usage.environment

/-- Waits for a child for a time, at most `bound` milliseconds; `none` if it has not ended then. -/
def awaitFor (child : Nat) : (bound : Nat) → Activity τ (Option Ending)
  | 0 => return none
  | bound + 1 => do
    match ← Activity.call (.wait .never) with
    | .ended pid ending => if pid = child then return some ending else awaitFor child bound
    | .running =>
      Activity.call (.sleep 1)
      awaitFor child bound
    | _ => return none

/-- Ends like a child has ended. -/
def endLike (ending : Ending) : Activity τ Nat := do
  match ending with
  | .exited status => return status
  | .killed signal =>
    let (pid, _) ← Activity.call .identity
    let _ ← Activity.call (.send pid signal)
    return ending.status

/-- Starts a command as a child, which says in its own way that it cannot be run. -/
def start (usage : Usage) (failed : (name : String) → String) (words : List String) :
    Activity Task Nat :=
  Activity.call (.fork (.launch {
    paths := Shell.pathsOf ((variableIn? usage.environment "PATH").getD standardPath)
      (words.headD "")
    words
    environment := usage.environment
    complaint := fun error =>
      usage.name ++ ": " ++ failed (words.headD "") ++ ": " ++ refusalWords error }))

/-- Runs a command for a limited time. -/
def timeout : Body Task := reading "vfp" "sk" [("signal", 's'), ("kill-after", 'k'),
    ("preserve-status", 'p'), ("foreground", 'f')] true 125 fun arguments usage => do
  let preserved := hasLetter 'p' arguments
  match operands arguments with
  | [] | [_] =>
    complain ("Try '" ++ usage.name ++ " --help' for more information.")
    return 125
  | word :: command =>
    match duration? word, ((valueOf? 's' arguments).map Shell.signalNumber?).getD (some 15) with
    | none, _ =>
      usage.refuseWithHelp 125 ("invalid time interval " ++ quotedName word)
    | _, none =>
      usage.refuseWithHelp 125 (quotedName ((valueOf? 's' arguments).getD "") ++ ": invalid signal")
    | some limit, some number =>
      let signal : Signal := ⟨number⟩
      let child ← start usage (fun name => "failed to run command " ++ quotedName name) command
      let limit := if limit = 0 then forever else limit
      match ← awaitFor child limit with
      | some ending => endLike ending
      | none =>
        let _ ← Activity.call (.send child signal)
        let _ ← Activity.call (.send child Signal.goOn)
        let patience := ((valueOf? 'k' arguments).bind duration?).getD forever
        match ← awaitFor child patience with
        | some ending =>
          if preserved then return ending.status
          else if ending = .killed Signal.kill then endLike ending
          else return 124
        | none =>
          let _ ← Activity.call (.send child Signal.kill)
          match ← awaitFor child forever with
          | some ending => endLike ending
          | none => return 124

/-- The words of a text, which may stand between quotes; what is wrong if a quote is open. At most
`bound` characters are read. -/
def quotedWords : (bound : Nat) → Option String → List Char → Except String (List String)
  | 0, current, _ | _, current, [] => .ok current.toList
  | bound + 1, current, char :: rest => do
    let quoted (quote : Char) (name : String) : Except String (List String) := do
      let inside := rest.takeWhile fun char => char != quote && char != '\n'
      match rest.drop inside.length with
      | closing :: after =>
        if closing = quote then
          quotedWords bound (some (current.getD "" ++ String.ofList inside)) after
        else throw name
      | [] => throw name
    match char with
    | ' ' | '\t' | '\n' => return current.toList ++ (← quotedWords bound none rest)
    | '\'' => quoted '\'' "single"
    | '"' => quoted '"' "double"
    | '\\' =>
      match rest with
      | escaped :: rest => quotedWords bound (some ((current.getD "").push escaped)) rest
      | [] => return current.toList
    | char => quotedWords bound (some ((current.getD "").push char)) rest

/-- Groups of at most so many words. -/
def groupsOf (count : Nat) : (bound : Nat) → List String → List (List String)
  | 0, _ | _, [] => []
  | bound + 1, words => words.take count :: groupsOf count bound (words.drop count)

/-- Runs commands one after the other; the status tells how they have ended. -/
def runAll (usage : Usage) (name : String) : (status : Nat) → List (List String) →
    Activity Task Nat
  | status, [] => return status
  | status, command :: rest => do
    let child ← start usage id command
    match ← Activity.call (.wait .steadily) with
    | .ended pid (.exited code) =>
      if pid != child || code = 0 then runAll usage name status rest
      else if code = 255 then
        usage.refuse 124 (name ++ ": exited with status 255; aborting")
      else if code = 126 || code = 127 then return code
      else runAll usage name 123 rest
    | .ended _ (.killed signal) =>
      usage.refuse 125 (name ++ ": terminated by signal " ++ toString signal.number)
    | _ => return status

/-- The words of the input, as arguments tell. -/
def inputWords (arguments : List Argument) (text : String) : Except String (List String) :=
  let pieces (separator : Char) : Except String (List String) :=
    let pieces := (Text.pieces (· == separator) text.toList).map String.ofList
    .ok (if pieces.getLast? = some "" then pieces.dropLast else pieces)
  if hasLetter '0' arguments then pieces '\x00'
  else
    match valueOf? 'd' arguments with
    | some delimiter => pieces (delimiter.toList.headD '\n')
    | none => quotedWords (text.length + 1) none text.toList

/-- The commands that are run with words from the input. -/
def inputCommands (arguments : List Argument) (text : String) (words command : List String) :
    List (List String) :=
  let lines := (linesOf text).filter (!·.isEmpty)
  match valueOf? 'I' arguments with
  | some mark =>
    lines.map fun line =>
      let word := String.ofList (line.toList.dropWhile fun char => char == ' ' || char == '\t')
      command.map fun (part : String) => Text.joined word (part.splitOn mark)
  | none =>
    let groups :=
      match (valueOf? 'L' arguments).bind natural? with
      | some count =>
        (groupsOf count lines.length lines).map fun (group : List String) =>
          group.flatMap fun (line : String) =>
            (quotedWords (line.length + 1) none line.toList).toOption.getD []
      | none =>
        groupsOf (((valueOf? 'n' arguments).bind natural?).getD 100000) words.length words
    if groups.isEmpty && !hasLetter 'r' arguments then [command] else groups.map (command ++ ·)

/-- Runs a command with words from the input. -/
def xargs : Body Task := reading "0rtx" "nILPsd" [("no-run-if-empty", 'r'), ("null", '0'),
    ("max-args", 'n')] true 1 fun arguments usage => do
  let command := operands arguments
  let command := if command.isEmpty then ["echo"] else command
  let text := (← readAll 0).toOption.getD ""
  match inputWords arguments text with
  | .error quote =>
    usage.refuse 1 ("unmatched " ++ quote ++
      " quote; by default quotes are special to xargs unless you use the -0 option")
  | .ok words =>
    runAll usage (command.headD "") 0 (inputCommands arguments text words command)

end Running

section Signals

/-- Sends signals. -/
def kill : Body Task := fun usage => do
  let (signal, pids) : Option Nat × List String :=
    match usage.arguments with
    | "-s" :: name :: rest => (Shell.signalNumber? name, rest)
    | "-l" :: rest => (none, rest)
    | word :: rest =>
      match word.toList with
      | '-' :: name =>
        let name := String.ofList name
        let name := if name.startsWith "SIG" then (name.drop 3).toString else name
        (Shell.signalNumber? name, rest)
      | _ => (some Signal.terminate.number, word :: rest)
    | [] => (none, [])
  match signal with
  | none => return 1
  | some number =>
    let results ← pids.mapM fun word => do
      match ← Activity.call (.send ((natural? word).getD 0) ⟨number⟩) with
      | .ok () => return true
      | .error error =>
        usage.complain ("(" ++ word ++ "): " ++ refusalWords error)
        return false
    return if results.all id then 0 else 1

/-- Shows where programs are. -/
def which : Body Task := reading "as" "" [] false 2 fun arguments usage => do
  let searchPath := (variableIn? usage.environment "PATH").getD ""
  let names := operands arguments
  let found ← names.mapM fun name => do
    let found ← (Shell.pathsOf searchPath name).filterM fun path => do
      return (← view path) matches .ok (.file _ true)
    return found.head?
  print (unlines (found.filterMap id))
  return if !names.isEmpty && found.all Option.isSome then 0 else 1

end Signals

/-- Ends with a status. -/
def constant (status : Nat) : Body τ := fun _ => return status

end TrainingLauncher.Rehearsal.Tool
