/-
How a shell carries out scripts. `carryOut` is what one script does, given how the scripts inside of
it are carried out; `evaluate` ties the knot, counts down with every script inside of another one,
and attends to signals after each. `live` is the life of a shell: a body, and what is to be done at
its end.
-/

import TrainingLauncher.Rehearsal.Shell.BuiltIn.Places
import TrainingLauncher.Rehearsal.Shell.BuiltIn.Processes
import TrainingLauncher.Rehearsal.Shell.BuiltIn.Variables
import TrainingLauncher.Rehearsal.Shell.BuiltIn.Words
import TrainingLauncher.Rehearsal.Shell.Lookup
import TrainingLauncher.Rehearsal.Shell.Redirection

namespace TrainingLauncher.Rehearsal.Shell

/-- How a script is carried out. -/
structure Manner where
  /-- Somebody looks at its status. -/
  tested : Bool
  /-- The shell has nothing else to do afterwards. -/
  last : Bool

/-- How scripts are carried out. -/
abbrev Evaluator := Manner → Script → Conduct Unit

/-- The status of the latest command. -/
def setStatus (status : Nat) : Conduct Unit := modify ({ · with status })

/-- Comes to a line. -/
def enterLine (line : Nat) : Conduct Unit := modify ({ · with line })

section Texts

variable (evaluate : Evaluator)

/-- Carries out the commands of a source, in at most `bound` lines; the answer is the status of the
last one. -/
def carryOutSource (manner : Manner) : (bound : Nat) → Source → Nat → Conduct Nat
  | 0, _, status => return status
  | bound + 1, source, status => do
    match source.command? with
    | .error complaint =>
      modify ({ · with line := complaint.line })
      refuse complaint.text
    | .ok (none, _) => return status
    | .ok (some .nothing, source) => carryOutSource manner bound source status
    | .ok (some script, source) =>
      evaluate { manner with last := manner.last && source.isOver } script
      carryOutSource manner bound source (← get).status

/-- Carries out a text, whose lines count from one on. -/
def carryOutText (manner : Manner) (text : String) : Conduct Nat :=
  carryOutSource evaluate manner (text.length + 2) (Source.ofText text 1) 0

end Texts

section Attention

/-- Does what is to be done for those of some signals that have come. What leaves a loop or a
function meanwhile leaves the others for later. -/
def attendTo (evaluate : Evaluator) (status : Nat) : List Signal → Conduct Unit
  | [] => return
  | signal :: rest => do
    let state ← get
    if state.arrived.contains signal then
      set { state with arrived := state.arrived.filter (· != signal) }
      match state.traps.lookup signal.number with
      | some action =>
        try
          let _ ← carryOutText evaluate ⟨false, false⟩ action
          setStatus status
        catch departure =>
          modify fun state => { state with isCalled := !state.arrived.isEmpty }
          if departure matches .loop _ _ then setStatus status
          throw departure
      | none => pure ()
    attendTo evaluate status rest

/-- Attends to the signals that have come, in the order of their numbers. The status is the same
afterwards. -/
def attend (evaluate : Evaluator) : Conduct Unit := do
  let _ ← noteSignals
  let state ← get
  if !state.isCalled then return
  let before := state.statusBefore
  let status := before.getD state.status
  set { state with isCalled := false, statusBefore := some status }
  afterwards (attendTo evaluate status Signal.all) (modify ({ · with statusBefore := before }))

end Attention

section Departures

/-- The count that an argument gives, which is not zero. -/
def countArgument (words : List String) : Conduct Nat := do
  match words with
  | [] => return 1
  | word :: _ =>
    let count ← numberArgument word
    if count = 0 then refuse ("Illegal number: " ++ word) else return count

/-- Leaves loops. -/
def leaveLoops (again : Bool) : BuiltIn := fun words => do
  let count := min (← countArgument words) (← get).loops
  setStatus 0
  if count > 0 then throw (.loop count again)
  return .silent 0

/-- Leaves a function, or a script that is read from a file. -/
def leaveFunction : BuiltIn := fun words => do
  match words with
  | [] => throw (.function (← get).status)
  | word :: _ => throw (.function (← numberArgument word))

/-- Ends the shell. -/
def endShell : BuiltIn := fun words => do
  match words with
  | [] =>
    let state ← get
    throw (.shell (state.statusBefore.getD state.status))
  | word :: _ => throw (.shell (← numberArgument word))

/-- Lets a body leave the innermost loop; the answer tells whether the loop goes on. -/
def insideLoop (body : Conduct Unit) : Conduct Bool :=
  ExceptT.mk do
    match ← body.run with
    | .ok () => return .ok true
    | .error (.loop (count + 2) again) => return .error (.loop (count + 1) again)
    | .error (.loop _ again) => return .ok again
    | .error departure => return .error departure

/-- Lets a body leave a function. -/
def insideFunction (body : Conduct Unit) : Conduct Unit :=
  ExceptT.mk do
    match ← body.run with
    | .error (.function status) =>
      modify ({ · with status })
      return .ok ()
    | result => return result

/-- Counts one more loop around a body. -/
def inLoop (body : Conduct α) : Conduct α := do
  modify fun state => { state with loops := state.loops + 1 }
  afterwards body (modify fun state => { state with loops := state.loops - 1 })

end Departures

section Programs

/-- Runs a program in place of the shell. -/
def launchHere (launch : Launch) : Conduct α := do
  throw (.shell (← doing launch.run))

/-- Runs a program in a process of its own, and waits for it. -/
def launchApart (launch : Launch) : Conduct Unit := do
  let pid ← ask (.fork (.launch launch))
  setStatus (← awaitProcess pid)

/-- A launch of a command from the shell as it is now. -/
def launchOf (paths words : List String) : Conduct Launch := do
  let state ← get
  return ⟨paths, words, state.environment, fun error =>
    state.complaintStart ++ words.headD "" ++ ": " ++ launchWords error⟩

/-- Runs a program in place of the shell, if there is one. -/
def replaceShell : BuiltIn := fun words => do
  match words with
  | [] => return .silent 0
  | name :: _ => launchHere (← launchOf (pathsOf (← get).searchPath name) words)

/-- Runs a program. -/
def runProgram (manner : Manner) (searchPath : Option String) (isSpecial : Bool)
    (words : List String) : Conduct Unit := do
  let state ← get
  let name := words.headD ""
  match ← findProgram (searchPath.getD state.searchPath) name with
  | .error error =>
    complain (name ++ ": " ++ launchWords error)
    setStatus 127
    if isSpecial then throw .failure
  | .ok paths =>
    let launch ← launchOf paths words
    if manner.last && !state.hasTraps then launchHere launch else launchApart launch

end Programs

section BuiltIns

variable (evaluate : Evaluator)

/-- Carries out arguments as a script. -/
def evaluateWords (manner : Manner) : BuiltIn := fun words => do
  let text := Text.joined " " words
  return .silent (← carryOutText evaluate { manner with last := false } text)

/-- Finds a script that is read from a file. -/
def findScript (name : String) : Conduct String := do
  if name.contains '/' then return name
  else
    match ← fromFirstFile .notFound (pathsOf (← get).searchPath name) with
    | .ok (path :: _) => return path
    | _ => refuse (name ++ ": not found")

/-- Carries out a script from a file. -/
def readScript : BuiltIn := fun words => do
  match ← withoutOptions words with
  | [] => return .silent 0
  | name :: _ =>
    let path ← findScript name
    match ← doing (Tool.readFile path) with
    | .error error => refuse ("cannot open " ++ path ++ ": " ++ openingWords false error)
    | .ok text =>
      let outside ← get
      modify ({ · with command := some path })
      let body : Conduct Unit := do
        setStatus (← carryOutText evaluate ⟨false, false⟩ text)
      afterwards (insideFunction body)
        (modify ({ · with command := outside.command, line := outside.line }))
      return .silent (← get).status

/-- What the shell does itself for a command. -/
def builtIn? (manner : Manner) (name : String) : Option BuiltIn :=
  match name with
  | ":" | "true" => some (constantStatus 0)
  | "false" => some (constantStatus 1)
  | "." => some (readScript evaluate)
  | "[" | "test" => some (testCondition name)
  | "break" => some (leaveLoops false)
  | "cd" | "chdir" => some changeDirectory
  | "command" => some tellCommand
  | "continue" => some (leaveLoops true)
  | "echo" => some echoWords
  | "eval" => some (evaluateWords evaluate manner)
  | "exec" => some replaceShell
  | "exit" => some endShell
  | "export" => some exportVariables
  | "getopts" => some getOption
  | "hash" => some findCommands
  | "jobs" => some showJobs
  | "kill" => some kill
  | "local" => some localVariables
  | "printf" => some printPattern
  | "pwd" => some showDirectory
  | "read" => some readLine
  | "readonly" => some protectVariables
  | "return" => some leaveFunction
  | "set" => some setOptions
  | "shift" => some shift
  | "times" => some times
  | "trap" => some trap
  | "type" => some describeAll
  | "ulimit" => some limits
  | "umask" => some maskFiles
  | "unset" => some unset
  | "wait" => some waitJobs
  | _ => none

/-- Has the shell do what a command asks for. What goes wrong ends the shell only if the command is
a special one. -/
def runBuiltIn (isSpecial : Bool) (name : String) (builtIn : BuiltIn) (arguments : List String) :
    Conduct Unit := do
  let outside := (← get).command
  modify ({ · with command := some name })
  let body : Conduct Unit := do
    let report ← builtIn arguments
    let written ← doing (Tool.writeTo 1 report.text)
    if !written then complain (name ++ ": I/O error")
    setStatus (if written then report.status else report.status ||| 1)
  let whole := afterwards body (modify ({ · with command := outside }))
  if isSpecial then whole
  else
    let _ ← attempted whole

/-- Carries out a function. -/
def runFunction (manner : Manner) (body : Script) (arguments : List String) : Conduct Unit := do
  let outside ← get
  modify ({ · with arguments, loops := 0, optionPlace := 0 })
  afterwards (insideFunction (evaluate { manner with last := false } body))
    (modify ({ · with
      arguments := outside.arguments
      loops := outside.loops
      optionPlace := outside.optionPlace }))

end BuiltIns

section Commands

variable (evaluate : Evaluator)

/-- What a simple command is. -/
inductive Order where
  | nothing
  | builtIn (name : String) (work : BuiltIn) (arguments : List String)
  | function (body : Script) (arguments : List String)
  /-- A program, which may have to be looked for along a search path of its own. -/
  | program (searchPath : Option String) (words : List String)

/-- The words after `command`, if they are a command; and whether the standard search path is to be
used. -/
def commandWords : List String → Bool → Option (List String × Bool)
  | [], _ => none
  | word :: rest, standard =>
    match word.toList with
    | ['-', '-'] => if rest.isEmpty then none else some (rest, standard)
    | '-' :: letter :: letters =>
      if (letter :: letters).all (· == 'p') then commandWords rest true else none
    | _ => some (word :: rest, standard)

/-- What the words of a command are; functions count only at first. At most `bound` commands stand
before each other. -/
def orderOf (manner : Manner) :
    (bound : Nat) → (isFirst : Bool) → Option String → List String → Conduct Order
  | 0, _, _, _ | _, _, _, [] => return .nothing
  | bound + 1, isFirst, searchPath, name :: arguments => do
    let state ← get
    match if isFirst then state.functions.lookup name else none with
    | some body => return .function body arguments
    | none =>
      match builtIn? evaluate manner name with
      | none => return .program searchPath (name :: arguments)
      | some work =>
        match if name = "command" then commandWords arguments false else none with
        | some (words, standard) =>
          orderOf manner bound false (if standard then some standardSearchPath else searchPath)
            words
        | none => return .builtIn name work arguments

/-- Expands the words of a command. Those that set variables for a command that marks them are not
split. `deciding` tells that the command is not known yet. -/
def expandOrder : (assigns deciding : Bool) → List ScriptWord → Conduct (List String)
  | _, _, [] => return []
  | assigns, deciding, word :: rest => do
    let texts ←
      match if assigns then setting? word else none with
      | some (name, value) => pure [name ++ "=" ++ (← expandValue value)]
      | none => expandWord word
    let others ←
      match if deciding then texts.getLast? else none with
      | some last =>
        let marks := ["export", "readonly", "local"].contains last
        expandOrder marks (last == "command") rest
      | none => expandOrder assigns deciding rest
    return texts ++ others

/-- Makes the settings before a command. They last only as long as the command if it is not a
special one, and programs inherit them then. -/
def makeSettings (passing exported : Bool) : List (String × ScriptWord) → Conduct (List String)
  | [] => return []
  | (name, word) :: rest => do
    let value ← expandValue word
    if passing then shadow name
    assign name value exported
    return (name ++ "=" ++ value) :: (← makeSettings passing exported rest)

/-- Carries out an order. -/
def runOrder (manner : Manner) (isSpecial : Bool) : Order → Conduct Unit
  | .nothing => modify fun state => { state with status := state.substituted }
  | .builtIn name work arguments => runBuiltIn isSpecial name work arguments
  | .function body arguments => runFunction evaluate manner body arguments
  | .program searchPath words => runProgram manner searchPath isSpecial words

/-- Carries out a simple command. -/
def carryOutSimple (manner : Manner) (settings : List (String × ScriptWord))
    (words : List ScriptWord) (redirections : List Redirection) : Conduct Unit := do
  modify ({ · with substituted := 0 })
  let words ← expandOrder false true words
  let order ← orderOf evaluate manner (words.length + 1) true none words
  let isFunction := order matches .function _ _
  let isSpecial := !isFunction && specialCommands.contains (words.headD "")
  let replaces := order matches .builtIn "exec" _ _
  let passing := !isSpecial && !words.isEmpty
  let body (complaints : Nat) : Conduct Unit := do
    let made ← makeSettings passing (passing || replaces) settings
    let state ← get
    if state.options.traced then
      writeTo complaints ((state.value? "PS4").getD "" ++ Text.joined " " (made ++ words) ++ "\n")
    runOrder evaluate manner isSpecial order
  let body (complaints : Nat) : Conduct Unit := do
    if passing then
      enterShadows
      afterwards (body complaints) leaveShadows
    else body complaints
  let failed : Conduct Unit := if isSpecial then throw .failure else return
  if replaces then redirectForGood redirections failed body
  else redirecting redirections failed body

end Commands

section Processes

/-- Forks a shell that carries out a script. -/
def forkShell (script : Script) (start : Start) : Conduct Nat := do
  let state ← get
  ask (.fork (.script state script start))

/-- Starts the members of a pipeline; the answer is their ids. -/
def startMembers (tested isBeside : Bool) : Option Nat → List Script → Conduct (List Nat)
  | _, [] => return []
  | before, script :: rest => do
    let fromBefore := (before.map fun start => Wire.moved start 0).toList
    let nothing := if isBeside && before.isNone then [Wire.empty 0] else []
    if rest.isEmpty then
      let pid ← forkShell script ⟨nothing ++ fromBefore, tested, isBeside⟩
      before.toList.forM fun start => ask (.close start)
      return [pid]
    else
      let (start, finish) ← ask .pipe
      let wires := nothing ++ [.closed start] ++ fromBefore ++ [.moved finish 1]
      let pid ← forkShell script ⟨wires, tested, isBeside⟩
      before.toList.forM fun start => ask (.close start)
      ask (.close finish)
      return pid :: (← startMembers tested isBeside (some start) rest)

/-- Makes a descriptor of a child stand for what it is to stand for. -/
def Wire.lay : Wire → Conduct Unit
  | closed descriptor => ask (.close descriptor)
  | moved source target => moveDescriptor source target
  | empty descriptor => do
    ask (.close descriptor)
    match ← ask (.open "/dev/null" .reading) with
    | .ok opened => moveDescriptor opened descriptor
    | .error _ => return

/-- Forgets what is to be done when signals come; those that are ignored stay so. -/
def forgetTraps : Conduct Unit := do
  let state ← get
  state.traps.forM fun (number, action) => do
    if number != 0 && !action.isEmpty then
      let _ ← ask (.arrange ⟨number⟩ .standard)
  modify fun state => { state with traps := state.traps.filter fun (number, action) =>
    number != 0 && action.isEmpty }

/-- Begins as a shell of its own, in the state of the one that has forked it. -/
def beginApart (start : Start) : Conduct Unit := do
  forgetTraps
  modify ({ · with jobs := [], arrived := [], isCalled := false })
  if start.isBeside then
    let _ ← ask (.arrange Signal.interrupt .ignored)
    let _ ← ask (.arrange Signal.quit .ignored)
  start.wires.forM Wire.lay

end Processes

section Scripts

variable (evaluate : Evaluator)

/-- Carries out a loop. -/
def carryOutLoop (manner : Manner) (untilIt : Bool) (condition body : Script) :
    (bound : Nat) → Nat → Conduct Unit
  | 0, status => setStatus status
  | bound + 1, status => do
    let goesOn ← insideLoop (evaluate ⟨true, false⟩ condition)
    if !goesOn then setStatus status
    else if ((← get).status = 0) = untilIt then setStatus status
    else
      let again ← insideLoop (evaluate ⟨manner.tested, false⟩ body)
      if again then carryOutLoop manner untilIt condition body bound (← get).status

/-- Carries out a body once for each word. -/
def carryOutEach (manner : Manner) (name : String) (body : Script) : List String → Conduct Unit
  | [] => return
  | word :: rest => do
    assign name word false
    if ← insideLoop (evaluate ⟨manner.tested, false⟩ body) then
      carryOutEach manner name body rest

/-- Carries out a script that was chosen, which may be none. -/
def carryOutChosen (manner : Manner) (script : Script) : Conduct Unit := do
  if script matches .nothing then setStatus 0
  evaluate manner script

/-- A pattern of a word matches a text. -/
def matchesWord (text : String) (word : ScriptWord) : Conduct Bool := do
  return patternMatches (PatternPiece.ofGlyphs (← expandWhole word)) text.toList

/-- The script of the first arm that has a pattern for a text. -/
def chosenArm (text : String) : List (List ScriptWord × Script) → Conduct Script
  | [] => return .nothing
  | (patterns, script) :: rest => do
    if ← patterns.anyM (matchesWord text) then return script else chosenArm text rest

/-- Carries out a script, given how those inside of it are carried out. -/
def carryOut (manner : Manner) : Script → Conduct Unit
  | .nothing => return
  | .simple line settings words redirections => do
    enterLine line
    carryOutSimple evaluate manner settings words redirections
  | .sequence first second => do
    evaluate { manner with last := false } first
    evaluate manner second
  | .both first second => do
    evaluate ⟨true, false⟩ first
    if (← get).status = 0 then evaluate manner second
  | .either first second => do
    evaluate ⟨true, false⟩ first
    if (← get).status != 0 then evaluate manner second
  | .negation script => do
    evaluate ⟨true, false⟩ script
    setStatus (if (← get).status = 0 then 1 else 0)
  | .pipeline members => do
    let pids ← startMembers manner.tested false none members
    setStatus (← awaitJob endless ⟨0, pids.map fun pid => (pid, none)⟩)
  | .pipelineBeside members => do
    addJob (← startMembers manner.tested true none members)
    setStatus 0
  | .apart line script redirections => do
    enterLine line
    if manner.last && !(← get).hasTraps then
      redirectForGood redirections (throw .failure) fun _ => evaluate manner script
    else
      let pid ← forkShell (.apart line script redirections) ⟨[], manner.tested, false⟩
      setStatus (← awaitProcess pid)
  | .beside line script redirections => do
    if line > 0 then enterLine line
    let pid ← forkShell (.apart line script redirections) ⟨[.empty 0], false, true⟩
    addJob [pid]
    setStatus 0
  | .redirected line script redirections => do
    enterLine line
    redirecting redirections (return) fun _ => evaluate { manner with last := false } script
  | .conditional condition yes no => do
    evaluate ⟨true, false⟩ condition
    carryOutChosen evaluate manner (if (← get).status = 0 then yes else no)
  | .loop untilIt condition body =>
    inLoop (carryOutLoop evaluate manner untilIt condition body endless 0)
  | .each line name words body => do
    enterLine line
    let words ← expandAll words
    if words.isEmpty then setStatus 0
    inLoop (carryOutEach evaluate manner name body words)
  | .choice line word arms => do
    enterLine line
    carryOutChosen evaluate manner (← chosenArm (← expandText word) arms)
  | .function name body => do
    modify fun state => { state with
      functions := (name, body) :: state.functions.filter (·.1 != name) }
    setStatus 0

/-- A script whose failure ends a careful shell. -/
def isWatched : Script → Bool
  | .simple .. | .apart .. | .beside .. | .pipeline _ | .pipelineBeside _ => true
  | _ => false

end Scripts

section Lives

/-- Carries out a script, with at most `bound` scripts one inside the other. -/
def evaluate : (bound : Nat) → Evaluator
  | 0, _, _ => refuse "Maximum function recursion depth reached"
  | bound + 1, manner, script => do
    if !(← get).options.idle then carryOut (evaluate bound) manner script
    let state ← get
    if state.options.careful && isWatched script && !manner.tested && state.status != 0 then
      throw (.shell state.status)
    attend (evaluate bound)
    if manner.last then throw (.shell (← get).status)

/-- How many scripts stand one inside the other at most. -/
def scriptDepth : Nat := 1000000

/-- Carries out a script. -/
def evaluateScript : Evaluator := evaluate scriptDepth

/-- The status with which a shell ends. -/
def endingStatus (state : State) : Except Departure Unit → Nat
  | .error (.shell status) | .error (.function status) => status
  | _ => state.status

/-- The life of a shell, which ends with a status. -/
def live (body : Conduct Unit) (state : State) : Activity Task Nat := do
  let (result, state) ← body.run.run state
  let status := endingStatus state result
  match state.traps.lookup 0 with
  | none => return status % 256
  | some action =>
    let last : Conduct Unit := do
      let _ ← carryOutText evaluateScript ⟨false, false⟩ action
    let (result, _) ← last.run.run { state with
      traps := state.traps.filter (·.1 != 0), status, statusBefore := some status, loops := 0 }
    match result with
    | .error (.shell status) => return status % 256
    | .error .failure => return misuse
    | _ => return status % 256

/-- The life of a shell that another one has forked. -/
def liveApart (state : State) (script : Script) (start : Start) : Activity Task Nat :=
  live (do
    beginApart start
    evaluateScript ⟨start.tested, true⟩ script) state

end Lives

end TrainingLauncher.Rehearsal.Shell
