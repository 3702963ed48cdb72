/-
How scripts are read: characters make tokens, and tokens make commands. `Source.command?` reads the
commands up to the end of a line, which is as much as a shell reads before it carries them out. The
reader of lists ties the knot: it counts down with every list inside of another one.
-/

import TrainingLauncher.Rehearsal.Shell.Word

namespace TrainingLauncher.Rehearsal.Shell

section Tokens

namespace Token

/-- How a token is named in a complaint. -/
def shown : Token → String
  | word _ => "word"
  | redirection _ => "redirection"
  | sign text | keyword text => "\"" ++ text ++ "\""
  | newline => "newline"
  | finish => "end of file"

/-- The token is a sign. -/
def isSign (token : Token) (text : String) : Bool :=
  match token with
  | sign other => other == text
  | _ => false

/-- The token is a word that has a meaning of its own. -/
def isKeyword (token : Token) (text : String) : Bool :=
  match token with
  | keyword other => other == text
  | _ => false

/-- Nothing can follow in a list of commands. -/
def endsList (token : Token) : Bool :=
  match token with
  | keyword text =>
    ["do", "done", "elif", "else", "esac", "fi", "then", "\x7d"].contains text
  | sign text => text == ")" || text == ";;"
  | finish => true
  | _ => false

end Token

/-- Words that have a meaning of their own where a command starts. -/
def keywords : List String := [
  "!", "case", "do", "done", "elif", "else", "esac", "fi", "for", "if", "in", "then", "until",
  "while", "\x7b", "\x7d"]

/-- The signs between commands, longer ones first. -/
def signs : List String := ["&&", "||", ";;", "&", "|", ";", "(", ")"]

/-- How many characters at the start are blanks, comments and what joins lines. -/
def blanks : List Char → Nat
  | ' ' :: rest | '\t' :: rest => blanks rest + 1
  | '\\' :: '\n' :: rest => blanks rest + 2
  | '#' :: rest => (rest.takeWhile (· != '\n')).length + 1
  | _ => 0

/-- A token that does not fit, and the one that should stand there. -/
def unexpected (token : Token) (expected : Option Token) : Reader α :=
  senseless <|
    match expected with
    | some expected => token.shown ++ " unexpected (expecting " ++ expected.shown ++ ")"
    | none => token.shown ++ " unexpected"

/-- How scripts inside of words are read: up to a closing bracket, or to the end. -/
abbrev Nested := Bool → Reader Script

/-- Reads a word where a token is expected. -/
def readName (nested : Nested) : Reader ScriptWord := do
  skip (blanks (← remaining))
  match ← readWord nested .bare with
  | [] =>
    match ← remaining with
    | [] => unexpected .finish none
    | '\n' :: _ => unexpected .newline none
    | char :: rest =>
      if char = '<' || char = '>' then unexpected (.redirection (.mk 0 (.same none))) none
      else
        match signs.find? fun sign => sign.toList.isPrefixOf (char :: rest) with
        | some sign => unexpected (.sign sign) none
        | none => unexpected .finish none
  | word => return word

/-- What a descriptor is to stand for that is written as a word. -/
def sameAs (word : ScriptWord) : Target :=
  match plainText? word with
  | some "-" => .same none
  | some text =>
    match text.toList with
    | [digit] => if digit.isDigit then .same (some (digit.toNat - '0'.toNat)) else .named word
    | _ => .named word
  | none => .named word

/-- Reads the document that a redirection announces. -/
def readDocument (nested : Nested) (stripped : Bool) : Reader Target := do
  let word ← readName nested
  let text ← takeDocument stripped ((plainText? word).getD "")
  if word.any Part.isQuoted then return .document [.text true text]
  else return .document (← readElsewhere text (readWord nested .document))

/-- Reads a redirection. -/
def readRedirection (nested : Nested) (descriptor : Option Nat) : Reader Token := do
  let toTarget (count standard : Nat) (target : ScriptWord → Target) : Reader Token := do
    skip count
    return .redirection (.mk (descriptor.getD standard) (target (← readName nested)))
  let fromDocument (count : Nat) (stripped : Bool) : Reader Token := do
    skip count
    return .redirection (.mk (descriptor.getD 0) (← readDocument nested stripped))
  match ← remaining with
  | '>' :: '>' :: _ => toTarget 2 1 .extended
  | '>' :: '|' :: _ => toTarget 2 1 .forced
  | '>' :: '&' :: _ => toTarget 2 1 sameAs
  | '>' :: _ => toTarget 1 1 .replaced
  | '<' :: '<' :: '-' :: _ => fromDocument 3 true
  | '<' :: '<' :: _ => fromDocument 2 false
  | '<' :: '&' :: _ => toTarget 2 0 sameAs
  | '<' :: '>' :: _ => toTarget 2 0 .updated
  | _ => toTarget 1 0 .source

/-- Reads a token as the characters tell. -/
def readRaw (nested : Nested) : Reader Token := do
  skip (blanks (← remaining))
  match ← remaining with
  | [] => return .finish
  | '\n' :: _ => skip 1; return .newline
  | '<' :: _ | '>' :: _ => readRedirection nested none
  | char :: rest =>
    match signs.find? fun sign => sign.toList.isPrefixOf (char :: rest) with
    | some sign => skip sign.length; return .sign sign
    | none =>
      if char.isDigit && (rest.head? = some '<' || rest.head? = some '>') then
        skip 1
        readRedirection nested (some (char.toNat - '0'.toNat))
      else return .word (← readWord nested .bare)

/-- Reads a token, or the one that was put back. -/
def readPlain (nested : Nested) : Reader Token := do
  match (← get).ahead with
  | some token => modify ({ · with ahead := none }); return token
  | none => readRaw nested

/-- Puts a token back. -/
def putBack (token : Token) : Reader Unit := modify ({ · with ahead := some token })

/-- A word that is one of the keywords. -/
def Token.asKeyword (token : Token) : Token :=
  match token with
  | .word parts =>
    match bareText? parts with
    | some text => if keywords.contains text then .keyword text else token
    | none => token
  | token => token

/-- Reads a token where a command may start. -/
def readKeyword (nested : Nested) : Reader Token := return (← readPlain nested).asKeyword

/-- Reads a token where a command may start and line breaks do not count, at most `bound`. -/
def readSkipping (nested : Nested) : (bound : Nat) → Reader Token
  | 0 => return .finish
  | bound + 1 => do
    match ← readKeyword nested with
    | .newline => readSkipping nested bound
    | token => return token

/-- Reads a token where a command may start and line breaks do not count. -/
def readCommandToken (nested : Nested) : Reader Token := do
  readSkipping nested ((← remaining).length + 2)

/-- Reads a token that must be there. -/
def expectToken (expected : Token) (read : Reader Token) : Reader Unit := do
  let token ← read
  match token, expected with
  | .sign text, .sign other | .keyword text, .keyword other =>
    if text = other then return () else unexpected token (some expected)
  | _, _ => unexpected token (some expected)

end Tokens

/-- The lists of commands: those of a line, those inside of a command, and those that may be
empty. -/
inductive ListKind where
  | line
  | body
  | free
  deriving DecidableEq, Repr

/-- How lists of commands are read. -/
abbrev Lists := ListKind → Reader Script

/-- Reads a script inside of a word. -/
def nestedScript (lists : Lists) (nested : Nested) : Nested := fun isClosed => do
  let script ← lists .free
  let token ← readPlain nested
  if isClosed then
    if token.isSign ")" then return script else unexpected token (some (.sign ")"))
  else
    match token with
    | .finish => return script
    | token => unexpected token (some .finish)

section Commands

variable (lists : Lists) (nested : Nested)

/-- The name and the value of a word that sets a variable. -/
def setting? : ScriptWord → Option (String × ScriptWord)
  | .text false chars :: rest =>
    let name := chars.toList.takeWhile isNameChar
    match chars.toList.dropWhile isNameChar with
    | '=' :: value =>
      if (name.headD '0').isDigit then none
      else some (String.ofList name, .text false (String.ofList value) :: rest)
    | _ => none
  | _ => none

/-- The word is a name. -/
def isName (text : String) : Bool :=
  text.toList.all isNameChar && startsName (text.toList.headD '0')

/-- The commands that cannot have functions in their place. -/
def specialCommands : List String := [
  ".", ":", "break", "continue", "eval", "exec", "exit", "export", "local", "readonly", "return",
  "set", "shift", "times", "trap", "unset"]

/-- A simple command that is being read, the latest parts first. -/
structure SimpleParts where
  settings : List (String × ScriptWord)
  words : List ScriptWord
  redirections : List Redirection

/-- Reads the body of a function. -/
def readFunction (command : Reader Script) (name : ScriptWord) : Reader Script := do
  expectToken (.sign ")") (readPlain nested)
  let text := (bareText? name).getD ""
  if !isName text || specialCommands.contains text then senseless "Bad function name"
  putBack (← readCommandToken nested)
  return .function text (← command)

/-- Reads the rest of a simple command, at most `bound` tokens. -/
def readSimple (command : Reader Script) (line : Nat) :
    (bound : Nat) → SimpleParts → Reader Script
  | 0, _ => senseless "too many words"
  | bound + 1, parts => do
    match ← readPlain nested with
    | .word word =>
      match if parts.words.isEmpty then setting? word else none with
      | some setting =>
        readSimple command line bound { parts with settings := setting :: parts.settings }
      | none => readSimple command line bound { parts with words := word :: parts.words }
    | .redirection redirection =>
      readSimple command line bound
        { parts with redirections := redirection :: parts.redirections }
    | token =>
      match parts with
      | ⟨[], [name], []⟩ =>
        if token.isSign "(" then readFunction nested command name
        else finish token parts
      | _ => finish token parts
where
  /-- The simple command of parts, with the token that follows put back. -/
  finish (token : Token) (parts : SimpleParts) : Reader Script := do
    putBack token
    return .simple line parts.settings.reverse parts.words.reverse parts.redirections.reverse

/-- Reads the parts of a condition that follow the first outcome, at most `bound`. -/
def readAlternatives : (bound : Nat) → Reader Script
  | 0 => return .nothing
  | bound + 1 => do
    let token ← readKeyword nested
    if token.isKeyword "elif" then
      let condition ← lists .body
      expectToken (.keyword "then") (readKeyword nested)
      let yes ← lists .body
      return .conditional condition yes (← readAlternatives bound)
    else if token.isKeyword "else" then lists .body
    else
      putBack token
      return .nothing

/-- Reads words up to something else. -/
def readWords : (bound : Nat) → Reader (List ScriptWord × Token)
  | 0 => return ([], .finish)
  | bound + 1 => do
    match ← readPlain nested with
    | .word word =>
      let (words, token) ← readWords bound
      return (word :: words, token)
    | token => return ([], token)

/-- Reads a loop over words, from the name on. -/
def readEach (line : Nat) : Reader Script := do
  let name :=
    match ← readPlain nested with
    | .word word => (bareText? word).getD ""
    | _ => ""
  if !isName name then senseless "Bad for loop variable"
  let token ← readCommandToken nested
  let arguments : List ScriptWord := [[.parameter true "@" .plain]]
  let words ←
    if token.isKeyword "in" then do
      let (words, token) ← readWords nested ((← remaining).length + 2)
      match token with
      | .newline => pure words
      | token => if token.isSign ";" then pure words else unexpected token none
    else do
      if !token.isSign ";" then putBack token
      pure arguments
  expectToken (.keyword "do") (readCommandToken nested)
  let body ← lists .body
  expectToken (.keyword "done") (readKeyword nested)
  return .each line name words body

/-- Reads the patterns of an arm, at most `bound`, from the first one on. -/
def readPatterns : (bound : Nat) → Token → Reader (List ScriptWord)
  | 0, token => unexpected token none
  | bound + 1, token => do
    let pattern :=
      match token with
      | .word word => word
      | .keyword text => [.text false text]
      | _ => []
    let token ← readPlain nested
    if token.isSign "|" then
      return pattern :: (← readPatterns bound (← readPlain nested))
    else if token.isSign ")" then return [pattern]
    else unexpected token (some (.sign ")"))

/-- Reads the arms of a choice, at most `bound`. -/
def readArms : (bound : Nat) → Reader (List (List ScriptWord × Script))
  | 0 => return []
  | bound + 1 => do
    let token ← readCommandToken nested
    if token.isKeyword "esac" then return []
    else
      let first ← if token.isSign "(" then readPlain nested else pure token
      let patterns ← readPatterns nested ((← remaining).length + 2) first
      let body ← lists .free
      let token ← readCommandToken nested
      if token.isKeyword "esac" then return [(patterns, body)]
      else if token.isSign ";;" then return (patterns, body) :: (← readArms bound)
      else unexpected token (some (.sign ";;"))

/-- Reads the redirections that follow a command. -/
def readRedirections : (bound : Nat) → Reader (List Redirection)
  | 0 => return []
  | bound + 1 => do
    match ← readKeyword nested with
    | .redirection redirection => return redirection :: (← readRedirections bound)
    | token => putBack token; return []

/-- Reads a command that does not start with a word of its own. -/
def readCompound (line : Nat) (token : Token) : Reader (Option Script) := do
  let closed (closing : Token) (script : Script) : Reader (Option Script) := do
    expectToken closing (readKeyword nested)
    return some script
  match token with
  | .keyword "if" =>
    let condition ← lists .body
    expectToken (.keyword "then") (readKeyword nested)
    let yes ← lists .body
    let no ← readAlternatives lists nested ((← remaining).length + 2)
    closed (.keyword "fi") (.conditional condition yes no)
  | .keyword "while" | .keyword "until" =>
    let condition ← lists .body
    expectToken (.keyword "do") (readKeyword nested)
    let body ← lists .body
    closed (.keyword "done") (.loop (token.isKeyword "until") condition body)
  | .keyword "for" => return some (← readEach lists nested line)
  | .keyword "case" =>
    match ← readPlain nested with
    | .word word =>
      expectToken (.keyword "in") (readCommandToken nested)
      return some (.choice line word (← readArms lists nested ((← remaining).length + 2)))
    | token => unexpected token (some (.word []))
  | .keyword "\x7b" => closed (.keyword "\x7d") (← lists .body)
  | .sign "(" => closed (.sign ")") (.apart line (← lists .body) [])
  | .word _ | .redirection _ =>
    putBack token
    return none
  | token => unexpected token none

/-- Reads a command, with commands inside of each other at most `bound` deep. -/
def readCommand : (bound : Nat) → Reader Script
  | 0 => senseless "too many commands"
  | bound + 1 => do
    let token ← readKeyword nested
    let line := (← get).line
    match ← readCompound lists nested line token with
    | none => readSimple nested (readCommand bound) line ((← remaining).length + 2) ⟨[], [], []⟩
    | some script =>
      match script, ← readRedirections nested ((← remaining).length + 2) with
      | script, [] => return script
      | .apart line script _, redirections => return .apart line script redirections
      | script, redirections => return .redirected line script redirections

/-- Reads a command, after line breaks. -/
def readNextCommand : Reader Script := do
  putBack (← readCommandToken nested)
  readCommand lists nested ((← remaining).length + 2)

/-- Reads the commands that read what others write. -/
def readPipes : (bound : Nat) → Reader (List Script)
  | 0 => return []
  | bound + 1 => do
    let token ← readPlain nested
    if token.isSign "|" then
      let next ← readNextCommand lists nested
      return next :: (← readPipes bound)
    else
      putBack token
      return []

/-- Reads commands with pipes between them. -/
def readPipeline : Reader Script := do
  let token ← readKeyword nested
  let isNegated := token.isKeyword "!"
  if !isNegated then putBack token
  let first ← readCommand lists nested ((← remaining).length + 2)
  let others ← readPipes lists nested ((← remaining).length + 2)
  let script := if others.isEmpty then first else .pipeline (first :: others)
  return if isNegated then .negation script else script

/-- Reads commands that depend on how others end. -/
def readOutcomes : (bound : Nat) → Script → Reader Script
  | 0, first => return first
  | bound + 1, first => do
    let token ← readPlain nested
    if token.isSign "&&" || token.isSign "||" then
      putBack (← readCommandToken nested)
      let second ← readPipeline lists nested
      readOutcomes bound (if token.isSign "&&" then .both first second else .either first second)
    else
      putBack token
      return first

/-- The script that a shell begins with and does not wait for. -/
def besides : Script → Script
  | .pipeline members => .pipelineBeside members
  | .redirected line script redirections => .beside line script redirections
  | script => .beside 0 script []

/-- Reads the commands of a list, at most `bound`; `none` if there is nothing more to read. -/
def readItems (kind : ListKind) : (bound : Nat) → Option Script → Reader (Option Script)
  | 0, sofar => return sofar
  | bound + 1, sofar => do
    let token ← if kind = .line then readKeyword nested else readCommandToken nested
    match token with
    | .newline => return some (sofar.getD .nothing)
    | .finish =>
      putBack .finish
      return if kind = .line then sofar else some (sofar.getD .nothing)
    | token =>
      putBack token
      let mayEnd := kind = .free || (kind = .body && sofar.isSome)
      if mayEnd && token.endsList then return some (sofar.getD .nothing)
      else
        let first ← readPipeline lists nested
        let item ← readOutcomes lists nested ((← remaining).length + 2) first
        let token ← readPlain nested
        let item := if token.isSign "&" then besides item else item
        let sofar :=
          match sofar with
          | some before => .sequence before item
          | none => item
        match token with
        | .newline | .finish =>
          putBack token
          readItems kind bound (some sofar)
        | token =>
          if token.isSign "&" || token.isSign ";" then readItems kind bound (some sofar)
          else if kind = .line then unexpected token none
          else
            putBack token
            return some sofar

end Commands

/-- Reads lists of commands, at most `bound` of them inside of each other. -/
def readLists : (bound : Nat) → Lists × Nested
  | 0 => (fun _ => senseless "too many commands", fun _ => senseless "too many commands")
  | bound + 1 =>
    let (lists, nested) := readLists bound
    let list (kind : ListKind) : Reader Script := do
      let items ← readItems lists nested kind ((← remaining).length + 2) none
      return items.getD .nothing
    (list, nestedScript lists nested)

/-- Reads the commands up to the end of a line; `none` at the end of the source. -/
def Source.command? (source : Source) : Except Complaint (Option Script × Source) :=
  let (lists, nested) := readLists (source.rest.length + 2)
  readItems lists nested .line (source.rest.length + 2) none source

/-- The end of the source has been read. -/
def Source.isOver (source : Source) : Bool := source.ahead matches some .finish

end TrainingLauncher.Rehearsal.Shell
