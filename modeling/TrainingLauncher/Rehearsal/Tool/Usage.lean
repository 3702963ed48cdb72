/-
How small programs are called, and what they all do: print, complain, and read files to the end.
Their texts are octets.
-/

import TrainingLauncher.Rehearsal.Process.Activity
import TrainingLauncher.Text.Fields
import TrainingLauncher.Text.Octets

namespace TrainingLauncher.Rehearsal

/-- Why the system refuses something, in words. -/
def refusalWords (error : IoError) : String :=
  match error.text.splitOn " (os error" with
  | words :: _ => words
  | [] => error.text

namespace Tool

/-- How a program is called. -/
structure Usage where
  /-- The name under which it is called. -/
  name : String
  arguments : List String
  environment : List String

/-- What a program does: an activity that ends with a status. -/
abbrev Body (τ : Type) := Usage → Activity τ Nat

section Streams

/-- Writes a text to a descriptor; the answer tells whether it could be written. -/
def writeTo (descriptor : Nat) (text : String) : Activity τ Bool := do
  if text.isEmpty then return true
  match ← Activity.call (.write descriptor (Text.ofOctets text)) with
  | .ok _ => return true
  | .error _ => return false

/-- Writes to the output. -/
def print (text : String) : Activity τ Unit := do
  let _ ← writeTo 1 text

/-- Writes a line to where the complaints go. -/
def complain (text : String) : Activity τ Unit := do
  let _ ← writeTo 2 (text ++ "\n")

/-- Writes a line that starts with the name of the program. -/
def Usage.complain (usage : Usage) (text : String) : Activity τ Unit :=
  Tool.complain (usage.name ++ ": " ++ text)

/-- Does not understand the arguments. -/
def Usage.refuse (usage : Usage) (status : Nat) (text : String) : Activity τ Nat := do
  usage.complain text
  return status

/-- Does not understand the arguments, and points at the help. -/
def Usage.refuseWithHelp (usage : Usage) (status : Nat) (text : String) : Activity τ Nat :=
  usage.refuse status (text ++ "\nTry '" ++ usage.name ++ " --help' for more information.")

/-- How many pieces are read of a file at most. -/
def pieceLimit : Nat := 1000000

/-- How many bytes are read at once. -/
def pieceSize : Nat := 65536

/-- Reads a descriptor to its end, in at most `bound` pieces. -/
def readPieces (descriptor : Nat) :
    (bound : Nat) → ByteArray → Activity τ (Except IoError ByteArray)
  | 0, bytes => return .ok bytes
  | bound + 1, bytes => do
    match ← Activity.call (.read descriptor pieceSize) with
    | .ok more =>
      if more.isEmpty then return .ok bytes else readPieces descriptor bound (bytes ++ more)
    | .error error => return .error error

/-- Reads a descriptor to its end. -/
def readAll (descriptor : Nat) : Activity τ (Except IoError String) := do
  match ← readPieces descriptor pieceLimit .empty with
  | .ok bytes => return .ok (Text.octets bytes)
  | .error error => return .error error

/-- Has an activity read a file; a minus sign stands for the input. -/
def withFile (path : String) (body : Nat → Activity τ (Except IoError α)) :
    Activity τ (Except IoError α) := do
  if path = "-" then body 0
  else
    match ← Activity.call (.open path .reading) with
    | .error error => return .error error
    | .ok descriptor =>
      let result ← body descriptor
      Activity.call (.close descriptor)
      return result

/-- The content of a file. -/
def readFile (path : String) : Activity τ (Except IoError String) := withFile path readAll

/-- The contents of files, with their paths; without paths, that of the input. Files that cannot be
read are left out, each with a complaint, and the answer tells whether there were none. -/
def gather (usage : Usage) (explain : String → IoError → String) (paths : List String) :
    Activity τ (List (String × String) × Bool) := do
  let results ← (if paths.isEmpty then ["-"] else paths).mapM fun path => do
    match ← readFile path with
    | .ok content => return some (path, content)
    | .error error =>
      usage.complain (explain path error)
      return none
  return (results.filterMap id, results.all Option.isSome)

/-- A complaint that names the file first. -/
def plainly (path : String) (error : IoError) : String := path ++ ": " ++ refusalWords error

/-- A name between quotes. -/
def quotedName (path : String) : String := "'" ++ path ++ "'"

end Streams

section Lines

/-- The lines of a text, without the line breaks that end them. -/
def linesOf (text : String) : List String :=
  let pieces := (Text.pieces (· == '\n') text.toList).map String.ofList
  if pieces.getLast? = some "" then pieces.dropLast else pieces

/-- Lines as a text, each with a line break. -/
def unlines (lines : List String) : String := String.join (lines.map (· ++ "\n"))

/-- The value of the digits of a whole number. -/
def natural? (word : String) : Option Nat :=
  let chars := word.toList
  if !chars.isEmpty && chars.all Char.isDigit then word.toNat? else none

end Lines

section Options

/-- An argument of a program that is read as options and operands. -/
inductive Argument where
  /-- A letter after a minus sign, perhaps with a word of its own. -/
  | letter (letter : Char) (value : Option String)
  | long (name : String)
  | operand (word : String)

/-- Reads letters that stand together; those in `valued` take the rest, or else the next word. -/
def letters (valued : String) (next : Option String) :
    List Char → List Argument × Bool
  | [] => ([], false)
  | letter :: rest =>
    if valued.contains letter then
      if rest.isEmpty then ([.letter letter next], true)
      else ([.letter letter (some (String.ofList rest))], false)
    else
      let (others, taken) := letters valued next rest
      (.letter letter none :: others, taken)

/-- Reads arguments: options, which end at the first operand if `ordered` and at two minus signs
otherwise, and operands. -/
def arguments (valued : String) (ordered : Bool) : (bound : Nat) → List String → List Argument
  | 0, _ | _, [] => []
  | bound + 1, word :: rest =>
    match word.toList with
    | '-' :: '-' :: [] => rest.map .operand
    | '-' :: '-' :: name => .long (String.ofList name) :: arguments valued ordered bound rest
    | '-' :: letter :: more =>
      let (read, taken) := letters valued rest.head? (letter :: more)
      read ++ arguments valued ordered bound (if taken then rest.tail else rest)
    | _ =>
      if ordered then (word :: rest).map .operand
      else .operand word :: arguments valued ordered bound rest

/-- Reads the arguments of a program. -/
def Usage.read (usage : Usage) (valued : String) (ordered : Bool) : List Argument :=
  Tool.arguments valued ordered (usage.arguments.length + 1) usage.arguments

/-- The operands among arguments. -/
def operands (arguments : List Argument) : List String :=
  arguments.filterMap fun argument =>
    match argument with
    | .operand word => some word
    | _ => none

/-- A letter is among arguments. -/
def hasLetter (letter : Char) (arguments : List Argument) : Bool :=
  arguments.any fun argument =>
    match argument with
    | .letter other _ => other == letter
    | _ => false

/-- The latest value of a letter. -/
def valueOf? (letter : Char) (arguments : List Argument) : Option String :=
  (arguments.filterMap fun argument =>
    match argument with
    | .letter other value => if other = letter then value else none
    | _ => none).getLast?

/-- An option as the letter that stands for it, or what is wrong with it. -/
def Argument.known (known valued : String) (longs : List (String × Char)) :
    Argument → Except String Argument
  | .operand word => .ok (.operand word)
  | .letter char value =>
    if !known.contains char && !valued.contains char then
      .error ("invalid option -- '" ++ char.toString ++ "'")
    else if valued.contains char && value.isNone then
      .error ("option requires an argument -- '" ++ char.toString ++ "'")
    else .ok (.letter char value)
  | .long text =>
    let name := text.toList.takeWhile (· != '=')
    let value := text.toList.drop (name.length + 1)
    let name := String.ofList name
    match longs.lookup name with
    | none => .error ("unrecognized option '--" ++ name ++ "'")
    | some char =>
      if valued.contains char then
        if name.length = text.length then
          .error ("option '--" ++ name ++ "' requires an argument")
        else .ok (.letter char (some (String.ofList value)))
      else .ok (.letter char none)

/-- A program that reads its arguments: the letters that it knows without and with a value, the long
names of some of them, and whether the options end at the first operand. It ends with a status if it
does not understand them. -/
def reading (known valued : String) (longs : List (String × Char)) (ordered : Bool) (status : Nat)
    (body : List Argument → Body τ) : Body τ := fun usage =>
  match (usage.read valued ordered).mapM (Argument.known known valued longs) with
  | .error complaint => usage.refuseWithHelp status complaint
  | .ok arguments => body arguments usage

end Options

end Tool

end TrainingLauncher.Rehearsal
