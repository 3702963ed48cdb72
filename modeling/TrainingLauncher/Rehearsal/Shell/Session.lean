/-
A shell as a program: its words, the variables it finds, and the script that it carries out, which
is one of its words, a file, or its input.
-/

import TrainingLauncher.Rehearsal.Shell.Evaluation

namespace TrainingLauncher.Rehearsal.Shell

section Beginning

/-- What a shell has been told if it has been told nothing. -/
def Options.standard : Options := ⟨false, false, false, false, false, false, false, false⟩

/-- A shell that has not done anything. -/
def State.initial (name : String) (pid parent : Nat) : State where
  name := name
  arguments := []
  bindings := []
  functions := []
  options := .standard
  status := 0
  line := 0
  command := none
  pid := pid
  parent := parent
  beside := none
  jobs := []
  traps := []
  ignored := []
  arrived := []
  isCalled := false
  statusBefore := none
  directory := "/"
  loops := 0
  shadowed := []
  substituted := 0
  optionPlace := 0
  mask := 18

/-- The variables that a shell finds. Only names count, and the last value of each. -/
def importVariables (environment : List String) (state : State) : State :=
  environment.foldl (fun state entry =>
    match splitSetting entry with
    | (name, some value) => if isName name then state.assign name value true else state
    | _ => state) state

/-- Variables that every shell sets. -/
def setOwnVariables (state : State) : State :=
  let always := [
    ("IFS", " \t\n"), ("OPTIND", "1"), ("PPID", toString state.parent)]
  let ifMissing := [
    ("PATH", standardSearchPath), ("PS1", "# "), ("PS2", "> "), ("PS4", "+ ")]
  let state := ifMissing.foldl (fun state (name, value) =>
    if (state.value? name).isSome then state else state.assign name value false) state
  always.foldl (fun state (name, value) => state.assign name value false) state

/-- Finds out where the shell is. A variable may tell it, if it tells the truth. -/
def findDirectory : Conduct Unit := do
  let place ← ask .whereabouts
  let told := ((← get).value? "PWD").getD ""
  let directory :=
    if told.startsWith "/" && logicalPath "/" told = place then told else place
  modify fun state => { state.assign "PWD" directory true with directory }

end Beginning

section Invocation

/-- What the words of a shell ask for. -/
structure Invocation where
  /-- The script is the next word. -/
  fromWord : Bool
  /-- The script is the input. -/
  fromInput : Bool
  words : List String

/-- Reads the options among the words of a shell, at most `bound` words. -/
def readInvocation : (bound : Nat) → Invocation → Conduct Invocation
  | 0, invocation => return invocation
  | bound + 1, invocation => do
    match invocation.words with
    | [] => return invocation
    | word :: rest =>
      match word.toList with
      | ['-'] | ['-', '-'] => return { invocation with words := rest }
      | sign :: letter :: letters =>
        if sign != '-' && sign != '+' then return invocation
        else
          let on := sign == '-'
          let all := letter :: letters
          setLetters on (all.filter fun letter => !(['c', 'l', 'o', 's'].contains letter))
          let read := { invocation with
            fromWord := invocation.fromWord || all.contains 'c'
            fromInput := invocation.fromInput || all.contains 's'
            words := rest }
          if all.contains 'o' then
            match rest with
            | name :: rest =>
              setNamed on name
              readInvocation bound { read with words := rest }
            | [] =>
              writeTo 1 ((← get).options.shown (!on))
              return read
          else readInvocation bound read
      | _ => return invocation

/-- Carries out what a shell is asked for. -/
def carryOutInvocation (words : List String) : Conduct Unit := do
  let invocation ← readInvocation (words.length + 1) ⟨false, false, words⟩
  let run (text : String) : Conduct Unit := do
    let _ ← carryOutText evaluateScript ⟨false, false⟩ text
  let input : Conduct Unit := do
    run ((← doing (Tool.readAll 0)).toOption.getD "")
  match invocation.words with
  | [] =>
    if invocation.fromWord then refuse "-c requires an argument" else input
  | first :: rest =>
    if invocation.fromWord then
      match rest with
      | name :: arguments => modify ({ · with name, arguments })
      | [] => pure ()
      run first
    else if invocation.fromInput then
      modify ({ · with arguments := first :: rest })
      input
    else
      match ← ask (.open first .reading) with
      | .error error => refuse ("cannot open " ++ first ++ ": " ++ openingWords false error)
      | .ok descriptor =>
        let text ← doing (Tool.readAll descriptor)
        ask (.close descriptor)
        modify ({ · with name := first, arguments := rest })
        run (text.toOption.getD "")

/-- A shell as a program. -/
def session (words environment : List String) : Activity Task Nat := do
  let (pid, parent) ← Activity.call .identity
  let state := State.initial (words.headD "sh") pid parent
  live (do
    modify fun state => setOwnVariables (importVariables environment state)
    findDirectory
    carryOutInvocation words.tail) state

end Invocation

end TrainingLauncher.Rehearsal.Shell
