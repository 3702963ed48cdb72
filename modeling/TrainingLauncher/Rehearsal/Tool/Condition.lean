/-
Conditions on words, numbers and files. A condition is read from its words first; what is wrong with
them is found then. Whether it holds may depend on the files.
-/

import TrainingLauncher.Rehearsal.Tool.Printing

namespace TrainingLauncher.Rehearsal.Tool

/-- A condition. -/
inductive Condition where
  | constant (holds : Bool)
  /-- A sign before a word. -/
  | about (sign word : String)
  /-- A sign between two words. -/
  | between (one sign other : String)
  | negation (condition : Condition)
  | both (first second : Condition)
  | either (first second : Condition)

section Faults

/-- Why words are no condition. -/
inductive ConditionFault where
  | bracketExpected
  | argumentExpected (sign : String)
  /-- No sign between conditions follows a word, but another word does. -/
  | unexpectedOperator (word next : String)
  | closingExpected
  | illegalNumber (word : String)

/-- What is wrong with words, as a shell or a program says it. -/
def ConditionFault.message (printer : Printer) (words : List String) : ConditionFault → String
  | bracketExpected => if printer = .shell then "missing ]" else "missing ']'"
  | argumentExpected sign =>
    if printer = .shell then sign ++ ": argument expected"
    else "missing argument after '" ++ words.getLastD sign ++ "'"
  | unexpectedOperator word next =>
    if printer = .shell then word ++ ": unexpected operator"
    else
      match words with
      | [_, last] => "missing argument after '" ++ last ++ "'"
      | [_, sign, _] => "'" ++ sign ++ "': binary operator expected"
      | _ => "extra argument '" ++ next ++ "'"
  | closingExpected => if printer = .shell then "closing paren expected" else "')' expected"
  | illegalNumber word =>
    if printer = .shell then "Illegal number: " ++ word else "invalid integer '" ++ word ++ "'"

end Faults

section Reading

/-- The signs that stand before a word. -/
def signsBefore : List String := [
  "-r", "-w", "-x", "-e", "-f", "-d", "-c", "-b", "-p", "-u", "-g", "-k", "-s", "-t", "-z", "-n",
  "-h", "-O", "-G", "-L", "-S"]

/-- The signs that stand between two words. -/
def signsBetween : List String := [
  "=", "!=", "<", ">", "-eq", "-ne", "-ge", "-gt", "-le", "-lt", "-nt", "-ot", "-ef"]

/-- What a word is where it stands. -/
inductive Sense where
  | missing
  | before (sign : String)
  | between (sign : String)
  | negation
  | both
  | either
  | opening
  | closing
  | operand
  deriving DecidableEq

/-- What the first of some words is. A sign that stands before a word is one only if there is a word
that it stands before. -/
def sense : List String → Sense
  | [] => .missing
  | word :: rest =>
    if signsBefore.contains word then
      match rest with
      | [] => .operand
      | [_] => .before word
      | next :: _ => if signsBetween.contains next then .operand else .before word
    else if signsBetween.contains word then .between word
    else
      match word with
      | "!" => .negation
      | "-a" => .both
      | "-o" => .either
      | "(" => if rest.isEmpty then .operand else .opening
      | ")" => .closing
      | _ => .operand

/-- Reads a condition from its first word on; what is left starts with the last word of it. -/
abbrev ConditionReader := List String → Except ConditionFault (Condition × List String)

/-- Reads what stands between two words, from the first one on. -/
def readBetween : ConditionReader
  | one :: sign :: other :: rest => .ok (.between one sign other, other :: rest)
  | _ :: sign :: [] => .error (.argumentExpected sign)
  | words => .ok (.constant false, words)

/-- Reads a condition without signs that join conditions, given how to read a whole one. -/
def readSingle (whole : ConditionReader) (words : List String) :
    Except ConditionFault (Condition × List String) :=
  match sense words, words with
  | .missing, _ => .ok (.constant false, words)
  | .opening, _ :: rest =>
    if sense rest = .closing then .ok (.constant false, rest)
    else do
      let (condition, rest) ← whole rest
      match sense rest.tail with
      | .closing => return (condition, rest.tail)
      | _ => throw .closingExpected
  | .before sign, _ :: word :: rest => .ok (.about sign word, word :: rest)
  | .before sign, _ => .error (.argumentExpected sign)
  | _, word :: rest =>
    match sense rest with
    | .between _ => readBetween (word :: rest)
    | _ => .ok (.constant (!word.isEmpty), words)
  | _, [] => .ok (.constant false, words)

/-- Reads a condition that may be turned round, at most `bound` times. -/
def readNegated (whole : ConditionReader) : (bound : Nat) → ConditionReader
  | 0, words => readSingle whole words
  | bound + 1, words =>
    if sense words = .negation then do
      let rest := if words.tail.isEmpty then words else words.tail
      if words.tail.isEmpty then return (.constant true, words)
      let (condition, rest) ← readNegated whole bound rest
      return (.negation condition, rest)
    else readSingle whole words

/-- Reads conditions with a sign between them, at most `bound`. -/
def readJoined (joint : Sense) (join : Condition → Condition → Condition)
    (operand : ConditionReader) : (bound : Nat) → ConditionReader
  | 0, words => operand words
  | bound + 1, words => do
    let (first, rest) ← operand words
    if sense rest.tail = joint then
      let (second, rest) ← readJoined joint join operand bound rest.tail.tail
      return (join first second, rest)
    else return (first, rest)

/-- Reads a condition with at most `bound` of them one inside the other. -/
def readWhole : (bound : Nat) → ConditionReader
  | 0, words => .ok (.constant false, words)
  | bound + 1, words =>
    let single := readNegated (readWhole bound) bound
    readJoined .either .either (readJoined .both .both single bound) bound words

/-- The condition that words are. -/
def Condition.ofWords : (bound : Nat) → List String → Except ConditionFault Condition
  | 0, _ | _, [] => .ok (.constant false)
  | bound + 1, words => do
    let plainly : Except ConditionFault Condition := do
      let (condition, rest) ← readWhole (words.length + 1) words
      match rest with
      | word :: next :: _ => throw (.unexpectedOperator word next)
      | _ => return condition
    match words with
    | [one, sign, other] =>
      if signsBetween.contains sign then return .between one sign other
      else
        match one, other with
        | "(", ")" => Condition.ofWords bound [sign]
        | "!", _ => return .negation (← Condition.ofWords bound [sign, other])
        | _, _ => plainly
    | ["(", first, second, ")"] => Condition.ofWords bound [first, second]
    | ["!", first, second, third] =>
      return .negation (← Condition.ofWords bound [first, second, third])
    | _ => plainly

end Reading

section Meaning

/-- The number that a word stands for. -/
def conditionNumber (word : String) : Except ConditionFault Int :=
  let isSpace (char : Char) : Bool := char == ' ' || char == '\t' || char == '\n'
  let trimmed := ((word.toList.dropWhile isSpace).reverse.dropWhile isSpace).reverse
  let (negative, decimals) :=
    match trimmed with
    | '-' :: rest => (true, rest)
    | '+' :: rest | rest => (false, rest)
  match natural? (String.ofList decimals) with
  | some value => .ok (if negative then -(value : Int) else value)
  | none => .error (.illegalNumber word)

/-- Compares two words. -/
def compared (one sign other : String) : Except ConditionFault Bool := do
  let numbers (relation : Int → Int → Bool) : Except ConditionFault Bool := do
    return relation (← conditionNumber one) (← conditionNumber other)
  match sign with
  | "=" => return one == other
  | "!=" => return one != other
  | "<" => return decide (one < other)
  | ">" => return decide (other < one)
  | "-eq" => numbers fun a b => a == b
  | "-ne" => numbers fun a b => a != b
  | "-lt" => numbers fun a b => a < b
  | "-le" => numbers fun a b => a ≤ b
  | "-gt" => numbers fun a b => a > b
  | "-ge" => numbers fun a b => a ≥ b
  | _ => return one == other

/-- Whether what stands under a path is as a sign says. -/
def viewIs (sign : String) (view : FileView) : Bool :=
  match sign, view with
  | "-e", _ | "-r", _ | "-w", _ | "-O", _ | "-G", _ => true
  | "-f", .file _ _ => true
  | "-d", .directory _ => true
  | "-c", .device => true
  | "-x", .directory _ => true
  | "-x", .file _ executable => executable
  | "-s", .file size _ => size != 0
  | "-s", .directory _ => true
  | _, _ => false

/-- Whether a condition holds, given what stands under paths. -/
def Condition.holds (view : String → Activity τ (Except IoError FileView)) :
    Condition → Activity τ (Except ConditionFault Bool)
  | constant holds => return .ok holds
  | about "-z" word => return .ok word.isEmpty
  | about "-n" word => return .ok (!word.isEmpty)
  | about "-t" word => return (conditionNumber word).map fun _ => false
  | about sign word => do
    match ← view word with
    | .ok found => return .ok (viewIs sign found)
    | .error _ => return .ok false
  | between one sign other => return compared one sign other
  | negation condition => do return (← holds view condition).map (!·)
  | both first second => do
    match ← holds view first with
    | .ok one => return (← holds view second).map (one && ·)
    | error => return error
  | either first second => do
    match ← holds view first with
    | .ok one => return (← holds view second).map (one || ·)
    | error => return error

/-- Whether the condition that words are holds; the alternative is what is wrong with them. The name
under which it is asked may call for a closing bracket. -/
def examine (name : String) (words : List String) : Activity τ (Except ConditionFault Bool) := do
  let bracketed := name.endsWith "["
  if bracketed && words.getLast? != some "]" then return .error .bracketExpected
  else
    let words := if bracketed then words.dropLast else words
    match Condition.ofWords (words.length + 1) words with
    | .error fault => return .error fault
    | .ok condition => condition.holds fun path => Activity.call (.view path)

/-- The program that tells by its status whether a condition holds. -/
def test : Body τ := fun usage => do
  match ← examine usage.name usage.arguments with
  | .ok holds => return if holds then 0 else 1
  | .error fault =>
    let bracketed := usage.name.endsWith "["
    let words := if bracketed then usage.arguments.dropLast else usage.arguments
    usage.refuse 2 (fault.message .program words)

end Meaning

end TrainingLauncher.Rehearsal.Tool
