/-
How the words of scripts are read. A reader takes characters from a source and may find that they
make no sense. Inside of quotes and braces other characters are special than outside, which is what
a `Mode` tells apart; a script inside of a word is read by a reader that is handed in.
-/

import TrainingLauncher.Rehearsal.Shell.Script

namespace TrainingLauncher.Rehearsal.Shell

/-- A piece of a script. -/
inductive Token where
  | word (parts : ScriptWord)
  | redirection (redirection : Redirection)
  | sign (text : String)
  | keyword (text : String)
  | newline
  | finish

/-- What is left of a text that is read. -/
structure Source where
  rest : List Char
  line : Nat
  /-- The lines of documents that were read before the line they follow was over. -/
  owed : Nat
  /-- A token that was read and put back. -/
  ahead : Option Token

/-- Where a text makes no sense, and why. -/
structure Complaint where
  line : Nat
  text : String

/-- What reads from a source. -/
abbrev Reader := StateT Source (Except Complaint)

section Characters

/-- A text that is read from its start, as the lines from a number on. -/
def Source.ofText (text : String) (line : Nat) : Source := ⟨text.toList, line, 0, none⟩

/-- The source after so many characters. -/
def Source.after (source : Source) (count : Nat) : Source :=
  let lines := (source.rest.take count).countP (· == '\n')
  { source with
    rest := source.rest.drop count
    line := source.line + lines + (if lines = 0 then 0 else source.owed)
    owed := if lines = 0 then source.owed else 0 }

/-- Finds that a text makes no sense. -/
def senseless (text : String) : Reader α := do
  throw ⟨(← get).line, "Syntax error: " ++ text⟩

/-- The characters that are left. -/
def remaining : Reader (List Char) := return (← get).rest

/-- Takes characters. -/
def skip (count : Nat) : Reader Unit := modify (·.after count)

/-- Takes the characters at the start that are of a kind. -/
def takeRun (ofKind : Char → Bool) : Reader String := do
  let run := (← remaining).takeWhile ofKind
  skip run.length
  return String.ofList run

/-- How many characters at the start only join lines. -/
def joints : List Char → Nat
  | '\\' :: '\n' :: rest => joints rest + 2
  | _ => 0

/-- Takes what joins lines. -/
def joinLines : Reader Unit := do skip (joints (← remaining))

/-- A character that a name may start with. -/
def startsName (char : Char) : Bool := char.isAlpha || char == '_'

/-- A character of a name. -/
def isNameChar (char : Char) : Bool := char.isAlphanum || char == '_'

/-- A character that names a parameter by itself. -/
def isSpecial (char : Char) : Bool := ['!', '#', '$', '*', '-', '?', '@'].contains char

/-- A character that ends a word. -/
def endsWord (char : Char) : Bool :=
  [' ', '\t', '\n', ';', '&', '|', '<', '>', '(', ')'].contains char

end Characters

section Modes

/-- Where characters stand. -/
inductive Mode where
  | bare
  /-- Between braces. -/
  | braced
  /-- Between double quotes. -/
  | quoted
  /-- Between braces that stand between double quotes. -/
  | quotedBraced
  /-- In a document of its own. -/
  | document
  /-- In an expression. -/
  | arithmetic
  deriving DecidableEq, Repr

namespace Mode

/-- What stands there is quoted. -/
def isQuoted (mode : Mode) : Bool := mode != bare && mode != braced

/-- What stands between braces there. -/
def inBraces (mode : Mode) : Mode := if mode.isQuoted then quotedBraced else braced

/-- A character that stands for itself. -/
def isPlain (mode : Mode) (char : Char) : Bool :=
  !(['\\', '$', '\x60'].contains char) &&
    match mode with
    | bare => !endsWord char && char != '\'' && char != '"'
    | braced => char != '\x7d' && char != '\'' && char != '"'
    | quoted => char != '"'
    | quotedBraced => char != '\x7d' && char != '"'
    | document => true
    | arithmetic => char != '(' && char != ')'

/-- A backslash before a character takes away what is special about it. -/
def isEscapable (mode : Mode) (char : Char) : Bool :=
  !mode.isQuoted || ['\\', '$', '\x60'].contains char ||
    (char == '"' && mode != document) || (char == '\x7d' && mode == quotedBraced)

end Mode

end Modes

section Parameters

/-- The name of a parameter between braces, what follows it, and whether its size is asked for. -/
def bracedName? : List Char → Option (Bool × String × List Char)
  | '#' :: char :: rest =>
    if isNameChar char then
      let same := if char.isDigit then Char.isDigit else isNameChar
      some (true, String.ofList ((char :: rest).takeWhile same), (char :: rest).dropWhile same)
    else if char != '\x7d' && rest.head? = some '\x7d' then
      if isSpecial char then some (true, char.toString, rest) else none
    else some (false, "#", char :: rest)
  | char :: rest =>
    if startsName char then
      some (false, String.ofList ((char :: rest).takeWhile isNameChar),
        (char :: rest).dropWhile isNameChar)
    else if char.isDigit then
      some (false, String.ofList ((char :: rest).takeWhile Char.isDigit),
        (char :: rest).dropWhile Char.isDigit)
    else if isSpecial char then some (false, char.toString, rest)
    else none
  | [] => none

/-- What the characters after the name of a parameter ask for: how many of them do, and the
variation for the word that follows, which may be a pattern. -/
def variation? : List Char → Option (Nat × Bool × (ScriptWord → Variation))
  | '\x7d' :: _ => some (0, false, fun _ => .plain)
  | ':' :: '-' :: _ => some (2, false, .standIn true)
  | '-' :: _ => some (1, false, .standIn false)
  | ':' :: '=' :: _ => some (2, false, .kept true)
  | '=' :: _ => some (1, false, .kept false)
  | ':' :: '+' :: _ => some (2, false, .alternative true)
  | '+' :: _ => some (1, false, .alternative false)
  | ':' :: '?' :: _ => some (2, false, .required true)
  | '?' :: _ => some (1, false, .required false)
  | '#' :: '#' :: _ => some (2, true, .trimmed false true)
  | '#' :: _ => some (1, true, .trimmed false false)
  | '%' :: '%' :: _ => some (2, true, .trimmed true true)
  | '%' :: _ => some (1, true, .trimmed true false)
  | _ => none

end Parameters

section Words

/-- Reads what stands before a closing backquote; a backslash keeps the characters that are special
there. -/
def backquoted (escapesQuotes : Bool) : List Char → Option (List Char × Nat)
  | [] => none
  | '\x60' :: _ => some ([], 1)
  | '\\' :: char :: rest => do
    let (inside, count) ← backquoted escapesQuotes rest
    if char = '\n' then return (inside, count + 2)
    else if ['\x60', '\\', '$'].contains char || (escapesQuotes && char == '"') then
      return (char :: inside, count + 2)
    else return ('\\' :: char :: inside, count + 2)
  | char :: rest => do
    let (inside, count) ← backquoted escapesQuotes rest
    return (char :: inside, count + 1)

/-- Reads a script in another text, and then goes on where it was. -/
def readElsewhere (text : String) (read : Reader α) : Reader α := do
  let source ← get
  set (Source.ofText text source.line)
  let value ← read
  set source
  return value

/-- Reads a backslash and what follows it. -/
def readEscape (mode : Mode) : Reader (List Part) := do
  match ← remaining with
  | '\\' :: '\n' :: _ => skip 2; return []
  | '\\' :: char :: _ =>
    skip 2
    if mode.isEscapable char then return [.text true char.toString]
    else return [.text true (String.ofList ['\\', char])]
  | _ => skip 1; return [.text true "\\"]

/-- Reads single quotes and what stands between them. -/
def readSingleQuotes : Reader (List Part) := do
  skip 1
  let inside ← takeRun (· != '\'')
  if (← remaining).isEmpty then senseless "Unterminated quoted string"
  skip 1
  return [.text true inside]

/-- Reads backquotes and the script between them. -/
def readBackquotes (nested : Bool → Reader Script) (mode : Mode) : Reader (List Part) := do
  skip 1
  let rest ← remaining
  match backquoted (mode == .quoted) rest with
  | none =>
    skip rest.length
    senseless "EOF in backquote substitution"
  | some (inside, count) =>
    skip count
    let script ← readElsewhere (String.ofList inside) (nested false)
    return [.output mode.isQuoted script]

/-- Reads what follows a dollar sign, given how to read parts between braces and in expressions. -/
def readDollar (nested : Bool → Reader Script) (parts : Mode → Reader (List Part)) (mode : Mode) :
    Reader (List Part) := do
  skip 1
  joinLines
  match ← remaining with
  | '(' :: '(' :: _ =>
    skip 2
    return [.arithmetic mode.isQuoted (← parts .arithmetic)]
  | '(' :: _ =>
    skip 1
    return [.output mode.isQuoted (← nested true)]
  | '\x7b' :: rest =>
    skip 1
    match bracedName? rest with
    | none =>
      let _ ← parts mode.inBraces
      return [.parameter mode.isQuoted "" .senseless]
    | some (isSize, name, after) =>
      skip (rest.length - after.length)
      if isSize then
        let word ← parts mode.inBraces
        return [.parameter mode.isQuoted name (if word.isEmpty then .size else .senseless)]
      else
        match variation? after with
        | none =>
          let _ ← parts mode.inBraces
          return [.parameter mode.isQuoted name .senseless]
        | some (count, isPattern, variation) =>
          skip count
          let word ← parts (if isPattern then .braced else mode.inBraces)
          return [.parameter mode.isQuoted name (variation word)]
  | char :: _ =>
    if startsName char then
      return [.parameter mode.isQuoted (← takeRun isNameChar) .plain]
    else if char.isDigit || isSpecial char then
      skip 1
      return [.parameter mode.isQuoted char.toString .plain]
    else return [.text mode.isQuoted "$"]
  | [] => return [.text mode.isQuoted "$"]

/-- Reads parts up to the end of what they stand in, at most `bound` of them. In an expression,
`depth` brackets are open. -/
def readParts (nested : Bool → Reader Script) :
    (bound : Nat) → (depth : Nat) → Mode → Reader (List Part)
  | 0, _, _ => senseless "Unterminated quoted string"
  | bound + 1, depth, mode => do
    let next (read : Reader (List Part)) (depth : Nat) : Reader (List Part) := do
      let parts ← read
      return parts ++ (← readParts nested bound depth mode)
    let sign (text : String) (depth : Nat) : Reader (List Part) :=
      next (do skip 1; return [.text true text]) depth
    match ← remaining with
    | [] =>
      match mode with
      | .bare | .document => return []
      | .quoted | .quotedBraced => senseless "Unterminated quoted string"
      | .braced => senseless "Missing '\x7d'"
      | .arithmetic => senseless "Missing '))'"
    | char :: rest =>
      match char, mode with
      | '\\', _ => next (readEscape mode) depth
      | '$', _ => next (readDollar nested (readParts nested bound 0) mode) depth
      | '\x60', _ => next (readBackquotes nested mode) depth
      | '\'', .bare | '\'', .braced => next readSingleQuotes depth
      | '"', .bare | '"', .braced => next (do
          skip 1
          let inside ← readParts nested bound 0 .quoted
          return if inside.any Part.isArguments then inside else .text true "" :: inside) depth
      | '"', .quotedBraced => next (do skip 1; return []) depth
      | '"', .quoted => skip 1; return []
      | '\x7d', .braced | '\x7d', .quotedBraced => skip 1; return []
      | '(', .arithmetic => sign "(" (depth + 1)
      | ')', .arithmetic =>
        if depth > 0 then sign ")" (depth - 1)
        else if rest.head? = some ')' then skip 2; return []
        else sign ")" 0
      | _, _ =>
        if mode = .bare && endsWord char then return []
        else next (return [.text mode.isQuoted (← takeRun mode.isPlain)]) depth

/-- Reads parts. -/
def readWord (nested : Bool → Reader Script) (mode : Mode) : Reader ScriptWord := do
  readParts nested ((← remaining).length + 1) 0 mode

end Words

section Documents

/-- The lines of a text up to one that closes it: these lines, and how many characters there are up
to the end of the closing one. -/
def documentLines (stripped : Bool) (closing : List Char) :
    (bound : Nat) → List Char → List Char × Nat
  | 0, _ | _, [] => ([], 0)
  | bound + 1, source =>
    let line := source.takeWhile (· != '\n')
    let kept := if stripped then line.dropWhile (· == '\t') else line
    let ended := line.length < source.length
    let count := line.length + (if ended then 1 else 0)
    if kept = closing then ([], count)
    else
      let (others, more) := documentLines stripped closing bound (source.drop count)
      (kept ++ (if ended then '\n' :: others else others), count + more)

/-- Reads the document that starts on the next line, whatever is left of this one. -/
def takeDocument (stripped : Bool) (closing : String) : Reader String := do
  let source ← get
  let line := source.rest.takeWhile (· != '\n')
  match source.rest.drop line.length with
  | _ :: below =>
    let (text, count) := documentLines stripped closing.toList (below.length + 1) below
    let lines := (below.take count).countP (· == '\n')
    set { source with rest := line ++ '\n' :: below.drop count, owed := source.owed + lines }
    return String.ofList text
  | [] => return ""

end Documents

end TrainingLauncher.Rehearsal.Shell
