/-
The commands whose work a shell does itself. Each is given its arguments and reports its status and
what it prints. Options stand before the arguments, as letters after a minus sign.
-/

import TrainingLauncher.Rehearsal.Shell.State
import TrainingLauncher.Rehearsal.Tool.Usage

namespace TrainingLauncher.Rehearsal.Shell

/-- What a command reports whose work the shell does itself. -/
structure Report where
  status : Nat
  text : String

/-- What a shell does itself, given arguments. -/
abbrev BuiltIn := List String → Conduct Report

/-- Nothing is printed. -/
def Report.silent (status : Nat) : Report := ⟨status, ""⟩

/-- A line is printed. -/
def Report.line (text : String) : Report := ⟨0, text ++ "\n"⟩

/-- Has an activity of any program done by the shell. -/
def doing (activity : Activity Task α) : Conduct α := liftM activity

section Arguments

/-- A letter that stands before the arguments, with its value. -/
abbrev Letter := Char × String

/-- Reads letters that stand together, at most `bound`. A letter that a colon follows among those
that are known takes the rest as its value, or else the next word. -/
def optionLetters (known : String) :
    List Char → List String → Conduct (List Letter × List String)
  | [], words => return ([], words)
  | letter :: rest, words => do
    match known.toList.dropWhile (· != letter) with
    | [] => refuse ("Illegal option -" ++ letter.toString)
    | _ :: ':' :: _ =>
      match rest, words with
      | [], [] => refuse ("No arg for -" ++ letter.toString ++ " option")
      | [], value :: words => return ([(letter, value)], words)
      | rest, words => return ([(letter, String.ofList rest)], words)
    | _ =>
      let (others, words) ← optionLetters known rest words
      return ((letter, "") :: others, words)

/-- Reads the options that stand before the arguments, at most `bound` words of them. -/
def optionWords (known : String) :
    (bound : Nat) → List String → Conduct (List Letter × List String)
  | 0, words => return ([], words)
  | _, [] => return ([], [])
  | bound + 1, word :: words => do
    match word.toList with
    | ['-', '-'] => return ([], words)
    | '-' :: letter :: letters =>
      let (read, words) ← optionLetters known (letter :: letters) words
      let (others, words) ← optionWords known bound words
      return (read ++ others, words)
    | _ => return ([], word :: words)

/-- Reads the options that stand before the arguments. -/
def options (known : String) (words : List String) : Conduct (List Letter × List String) :=
  optionWords known (words.length + 1) words

/-- Reads arguments that have no options before them. -/
def withoutOptions (words : List String) : Conduct (List String) :=
  return (← options "" words).2

/-- The largest number that a command understands. -/
def largestArgument : Nat := 2147483647

/-- The number that an argument is. -/
def numberArgument (word : String) : Conduct Nat := do
  match Tool.natural? word with
  | some value =>
    if value ≤ largestArgument then return value else refuse ("Illegal number: " ++ word)
  | none => refuse ("Illegal number: " ++ word)

end Arguments

section Quoting

/-- Characters between single quotes, in at most `bound` pieces; single quotes among them stand
between double quotes. -/
def quotedPieces : (bound : Nat) → List Char → List Char
  | 0, _ => []
  | bound + 1, chars =>
    let plain := chars.takeWhile (· != '\'')
    let quotes := (chars.drop plain.length).takeWhile (· == '\'')
    let rest := chars.drop (plain.length + quotes.length)
    ['\''] ++ plain ++ ['\''] ++
      (if quotes.isEmpty then [] else ['"'] ++ quotes ++ ['"']) ++
      (if rest.isEmpty then [] else quotedPieces bound rest)

/-- A text between quotes, as a shell would read it. -/
def singleQuoted (text : String) : String :=
  String.ofList (quotedPieces (text.length + 1) text.toList)

end Quoting

end TrainingLauncher.Rehearsal.Shell
