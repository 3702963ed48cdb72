/-
TOML documents: their statements, one to a line, and the table that the statements build.
-/

import TrainingLauncher.Toml.Moment
import TrainingLauncher.Toml.Table

namespace TrainingLauncher.Toml

/-- How deep values may nest, and how many parts a key may have. -/
def depthLimit : Nat := 79

section Keys

/-- A character of a key without quotes. -/
def isKeyChar (char : Char) : Bool := char.isAlphanum || char == '_' || char == '-'

/-- Reads one part of a key. -/
def keyPart (source : List Char) : Option (String × List Char) :=
  match Quotation.line source with
  | some answer => some answer
  | none =>
    let part := source.takeWhile isKeyChar
    if part.isEmpty then none else some (String.ofList part, source.dropWhile isKeyChar)

/-- Reads the parts of a key, at most `limit`; dots part them. -/
def keyParts : (limit : Nat) → Reader (List String)
  | 0, _ => none
  | limit + 1, source =>
    match keyPart (skipSpaces source) with
    | none => none
    | some (part, rest) =>
      match skipSpaces rest with
      | '.' :: rest =>
        match keyParts limit rest with
        | some (parts, rest) => some (part :: parts, rest)
        | none => none
      | rest => some ([part], rest)

/-- Reads a key: the path to its table, and its last part. -/
def key (source : List Char) : Option ((List String × String) × List Char) :=
  match keyParts depthLimit source with
  | some (parts, rest) => some ((parts.dropLast, parts.getLastD ""), rest)
  | none => none

end Keys

section Values

/-- What a reader has passed over. -/
def spelled (source rest : List Char) : String :=
  String.ofList (source.take (source.length - rest.length))

/-- Reads a number, a date or a time of day. -/
def scalar (source : List Char) : Option (Value × List Char) :=
  match Moment.afterMoment source with
  | some rest => some (.moment (spelled source rest), rest)
  | none =>
    match Number.afterFloat source with
    | some rest => some (.float (spelled source rest), rest)
    | none =>
      match Number.integer source with
      | some (number, rest) => some (.integer number, rest)
      | none => none

/-- Reads the items of a list and the closing bracket. Each item takes a character at least, so that
`bound` need not exceed the length of the text. -/
def items (item : Reader Value) : (bound : Nat) → Reader (List Value)
  | 0, _ => none
  | bound + 1, source => do
    match ← skipLines false source with
    | ']' :: rest => return ([], rest)
    | source =>
      let (first, rest) ← item source
      match ← skipLines false rest with
      | ']' :: rest => return ([first], rest)
      | ',' :: rest =>
        let (others, rest) ← items item bound rest
        return (first :: others, rest)
      | _ => none

/-- Reads a key and its value. -/
def pair (item : Reader Value) (source : List Char) :
    Option ((List String × String × Value) × List Char) := do
  let ((path, last), rest) ← key source
  match rest with
  | '=' :: rest =>
    let (value, rest) ← item (skipSpaces rest)
    return ((path, last, value), rest)
  | _ => none

/-- Reads the pairs of an inline table and the closing brace. -/
def pairs (item : Reader Value) :
    (bound : Nat) → Reader (List (List String × String × Value))
  | 0, _ => none
  | bound + 1, source => do
    let (first, rest) ← pair item source
    match skipSpaces rest with
    | '\x7d' :: rest => return ([first], rest)
    | ',' :: rest =>
      let (others, rest) ← pairs item bound rest
      return (first :: others, rest)
    | _ => none

/-- Reads an inline table after its opening brace. -/
def inlineTable (item : Reader Value) (source : List Char) : Option (Value × List Char) :=
  match skipSpaces source with
  | '\x7d' :: rest => some (.table .inline [], rest)
  | inner => do
    let (read, rest) ← pairs item inner.length inner
    return (.table .inline (← Entries.ofPairs [] read), rest)

/-- Reads a value in which values nest `depth` deep at most. -/
def value : (depth : Nat) → Reader Value
  | depth, source =>
    match source with
    | '"' :: _ | '\'' :: _ => do
      let (text, rest) ← Quotation.text source
      return (.text text, rest)
    | '[' :: rest =>
      match depth with
      | 0 => none
      | depth + 1 => do
        let (read, rest) ← items (value depth) (rest.length + 1) rest
        return (.list read, rest)
    | '\x7b' :: rest =>
      match depth with
      | 0 => none
      | depth + 1 => inlineTable (value depth) rest
    | 't' :: 'r' :: 'u' :: 'e' :: rest => some (.boolean true, rest)
    | 'f' :: 'a' :: 'l' :: 's' :: 'e' :: rest => some (.boolean false, rest)
    | _ => scalar source

end Values

section Statements

/-- A statement of a document. -/
inductive Statement where
  /-- The statements after it are about a table. -/
  | table (path : List String) (key : String)
  /-- The statements after it are about the next table of a list. -/
  | nextTable (path : List String) (key : String)
  | assignment (path : List String) (key : String) (value : Value)

/-- Reads a statement. -/
def statement : Reader Statement
  | '[' :: '[' :: rest => do
    match ← key rest with
    | ((path, last), ']' :: ']' :: rest) => return (.nextTable path last, rest)
    | _ => none
  | '[' :: rest => do
    match ← key rest with
    | ((path, last), ']' :: rest) => return (.table path last, rest)
    | _ => none
  | source => do
    let ((path, last, value), rest) ← pair (value depthLimit) source
    return (.assignment path last value, rest)

/-- Reads the statements of a document, which has at most `bound` lines. -/
def statements : (bound : Nat) → List Char → Option (List Statement)
  | 0, _ => none
  | bound + 1, source =>
    match skipSpaces source with
    | [] => some []
    | line =>
      match endOfLine line with
      | some rest => statements bound rest
      | none => do
        let (first, rest) ← statement line
        return first :: (← statements bound (← endOfLine rest))

/-- Carries out statements on a table, of which the part under `header` is being filled. -/
def build (entries : Entries) (header : List String) : List Statement → Option Entries
  | [] => some entries
  | .table path key :: rest => do
    build (← entries.openTable path key) (path ++ [key]) rest
  | .nextTable path key :: rest => do
    build (← entries.openNext path key) (path ++ [key]) rest
  | .assignment path key value :: rest => do
    build (← entries.assignBelow header path key value) header rest

/-- A document without the mark that may stand at its start. -/
def unmarked : List Char → List Char
  | '\ufeff' :: rest => rest
  | source => source

/-- The table that a document describes. -/
def document (text : String) : Option Entries := do
  let source := unmarked text.toList
  build [] [] (← statements (source.length + 1) source)

end Statements

end TrainingLauncher.Toml
