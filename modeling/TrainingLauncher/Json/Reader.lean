/-
The reader of JSON texts. It follows the grammar of JSON texts and knows nothing of how values are
printed. Members of an object are read as they come, also when names repeat.
-/

import TrainingLauncher.Json
import TrainingLauncher.Toml.Quotation

namespace TrainingLauncher.Json

open Toml Toml.Quotation

/-- A blank between the parts of a text. -/
def isBlank (char : Char) : Bool := char == ' ' || char == '\n' || char == '\t' || char == '\r'

def skipBlanks (source : List Char) : List Char := source.dropWhile isBlank

section Texts

/-- What a letter after a backslash stands for. -/
def letter? : Char → Option Char
  | '"' => some '"'
  | '\\' => some '\\'
  | '/' => some '/'
  | 'b' => some '\x08'
  | 'f' => some '\x0c'
  | 'n' => some '\n'
  | 'r' => some '\r'
  | 't' => some '\t'
  | _ => none

/-- The character that two halves stand for. -/
def joinHalves? (high low : Nat) : Option Char :=
  if 0xD800 ≤ high ∧ high < 0xDC00 ∧ 0xDC00 ≤ low ∧ low < 0xE000 then
    some (Char.ofNat (0x10000 + 0x400 * (high - 0xD800) + (low - 0xDC00)))
  else none

/-- The character that a code point of four digits stands for, alone or with the half after it, and
the number of characters that this half takes. -/
def codePoint? (high : Nat) (source : List Char) : Option (Char × Nat) :=
  if high.isValidChar then some (Char.ofNat high, 0)
  else
    match source with
    | '\\' :: 'u' :: a :: b :: c :: d :: _ =>
      ((hexNumber? 0 [a, b, c, d]).bind (joinHalves? high)).map (·, 6)
    | _ => none

/-- Reads the characters of a text up to the closing quote, and that; `skipped` characters belong to
what was read before. A character beyond four hexadecimal digits is written as two halves. -/
def textBody (skipped : Nat) : Reader (List Char)
  | [] => none
  | char :: rest =>
    match skipped with
    | skipped + 1 => textBody skipped rest
    | 0 =>
      if char = '"' then some ([], rest)
      else if char = '\\' then
        match rest with
        | 'u' :: a :: b :: c :: d :: others =>
          match (hexNumber? 0 [a, b, c, d]).bind (codePoint? · others) with
          | some (char, more) => before char (textBody (5 + more) rest)
          | none => none
        | letter :: _ =>
          match letter? letter with
          | some char => before char (textBody 1 rest)
          | none => none
        | [] => none
      else if char.toNat < 0x20 then none
      else before char (textBody 0 rest)

end Texts

section Numbers

/-- A character of a number. -/
def isNumberChar (char : Char) : Bool :=
  char.isDigit || char == '-' || char == '+' || char == '.' || char == 'e' || char == 'E'

/-- Digits of a whole number; zero is the only one that starts with a zero. -/
def isWhole : List Char → Bool
  | [] => false
  | ['0'] => true
  | first :: rest => first != '0' && (first :: rest).all Char.isDigit

/-- Characters are digits, one at least. -/
def areDigits (chars : List Char) : Bool := !chars.isEmpty && chars.all Char.isDigit

/-- An exponent. -/
def isExponent : List Char → Bool
  | char :: '+' :: digits | char :: '-' :: digits =>
    (char == 'e' || char == 'E') && areDigits digits
  | char :: digits => (char == 'e' || char == 'E') && areDigits digits
  | [] => false

/-- What makes a number more than a whole number: places, an exponent or both. -/
def isMore : List Char → Bool
  | '.' :: rest =>
    let more := rest.dropWhile Char.isDigit
    areDigits (rest.takeWhile Char.isDigit) && (more.isEmpty || isExponent more)
  | rest => isExponent rest

/-- The number that characters spell, after a sign. There is no negative zero among the whole
numbers. -/
def unsigned? (negative : Bool) (spelling chars : List Char) : Option Json :=
  if isWhole chars then
    let magnitude := Nat.ofDigitChars 10 chars 0
    if negative && magnitude == 0 then some (.fraction (String.ofList spelling))
    else some (.integer (if negative then -(magnitude : Int) else magnitude))
  else if isWhole (chars.takeWhile Char.isDigit) && isMore (chars.dropWhile Char.isDigit) then
    some (.fraction (String.ofList spelling))
  else none

/-- The number that characters spell. -/
def number? : List Char → Option Json
  | '-' :: chars => unsigned? true ('-' :: chars) chars
  | chars => unsigned? false chars chars

/-- Reads a number. -/
def number (source : List Char) : Option (Json × List Char) :=
  match number? (source.takeWhile isNumberChar) with
  | some json => some (json, source.dropWhile isNumberChar)
  | none => none

end Numbers

section Values

/-- Reads one thing or more, with commas between them, and the closing bracket. -/
def others (closing : Char) (item : Reader α) : (bound : Nat) → Reader (List α)
  | 0, _ => none
  | bound + 1, source =>
    match item (skipBlanks source) with
    | none => none
    | some (first, rest) =>
      match skipBlanks rest with
      | char :: rest =>
        if char = closing then some ([first], rest)
        else if char = ',' then
          match others closing item bound rest with
          | some (others, rest) => some (first :: others, rest)
          | none => none
        else none
      | [] => none

/-- Reads what stands between two brackets, after the opening one. -/
def sequence (closing : Char) (item : Reader α) (source : List Char) :
    Option (List α × List Char) :=
  match skipBlanks source with
  | char :: rest =>
    if char = closing then some ([], rest) else others closing item source.length source
  | [] => none

/-- Reads a member of an object. -/
def member (item : Reader Json) : Reader (String × Json)
  | '"' :: source =>
    match textBody 0 source with
    | none => none
    | some (name, rest) =>
      match skipBlanks rest with
      | ':' :: rest =>
        match item (skipBlanks rest) with
        | some (json, rest) => some ((String.ofList name, json), rest)
        | none => none
      | _ => none
  | _ => none

/-- Reads a value in which values nest `depth` deep at most. -/
def value : (depth : Nat) → Reader Json
  | depth, source =>
    match source with
    | 'n' :: 'u' :: 'l' :: 'l' :: rest => some (.null, rest)
    | 't' :: 'r' :: 'u' :: 'e' :: rest => some (.bool true, rest)
    | 'f' :: 'a' :: 'l' :: 's' :: 'e' :: rest => some (.bool false, rest)
    | '"' :: rest => (textBody 0 rest).map fun (chars, rest) => (.text (String.ofList chars), rest)
    | '[' :: rest =>
      match depth with
      | 0 => none
      | depth + 1 => (sequence ']' (value depth) rest).map fun (items, rest) => (.list items, rest)
    | '\x7b' :: rest =>
      match depth with
      | 0 => none
      | depth + 1 =>
        (sequence '\x7d' (member (value depth)) rest).map fun (members, rest) =>
          (.object members, rest)
    | _ => number source

/-- The value of a JSON text in which values nest `depth` deep at most. -/
def read (depth : Nat) (text : String) : Option Json :=
  match value depth (skipBlanks text.toList) with
  | some (json, rest) => if (skipBlanks rest).isEmpty then some json else none
  | none => none

end Values

end TrainingLauncher.Json
