/-
Quoted texts. There are four styles, by the quote, by whether a backslash means something, and by
whether the text may go over several lines; then it stands between three quotes on each side.

* `Quotation.body` — reads what follows the opening quotes, the closing quotes included.
* `Quotation.write` — a text between the quotes of a style.
* `Quotation.choose` — the style in which a text is written: the plainest that holds it.
-/

import TrainingLauncher.Toml.Line
import TrainingLauncher.Toml.Value

namespace TrainingLauncher.Toml

/-- A style of quoting. -/
structure Quotation where
  quote : Char
  /-- A backslash starts an escape. -/
  escapes : Bool
  /-- The text may go over several lines. -/
  lines : Bool
  deriving DecidableEq, Repr

namespace Quotation

def basic : Quotation := ⟨'"', true, false⟩

def literal : Quotation := ⟨'\'', false, false⟩

def basicLines : Quotation := ⟨'"', true, true⟩

def literalLines : Quotation := ⟨'\'', false, true⟩

/-- The quotes on either side. -/
def delimiter (style : Quotation) : List Char :=
  if style.lines then [style.quote, style.quote, style.quote] else [style.quote]

section Reading

/-- The value of a hexadecimal digit. -/
def hexDigit? (char : Char) : Option Nat :=
  if '0' ≤ char ∧ char ≤ '9' then some (char.toNat - '0'.toNat)
  else if 'a' ≤ char ∧ char ≤ 'f' then some (char.toNat - 'a'.toNat + 10)
  else if 'A' ≤ char ∧ char ≤ 'F' then some (char.toNat - 'A'.toNat + 10)
  else none

/-- Appends hexadecimal digits to a number. -/
def hexNumber? (value : Nat) : List Char → Option Nat
  | [] => some value
  | char :: rest =>
    match hexDigit? char with
    | some digit => hexNumber? (16 * value + digit) rest
    | none => none

/-- The character whose code point is written in hexadecimal. -/
def codePoint? (digits : List Char) : Option Char :=
  match hexNumber? 0 digits with
  | some value => if value.isValidChar then some (Char.ofNat value) else none
  | none => none

/-- What a letter after a backslash stands for. -/
def escape? : Char → Option Char
  | 'b' => some '\x08'
  | 't' => some '\t'
  | 'n' => some '\n'
  | 'f' => some '\x0c'
  | 'r' => some '\r'
  | '"' => some '"'
  | '\\' => some '\\'
  | _ => none

/-- A backslash at the end of a line, which hides the line break and the blanks after it. -/
def hidesBreak (source : List Char) : Bool := (lineBreak? (skipSpaces source)).isSome

/-- Puts a character before what was read. -/
def before (char : Char) : Option (List Char × List Char) → Option (List Char × List Char)
  | some (chars, rest) => some (char :: chars, rest)
  | none => none

/-- How many quotes a text starts with. -/
def leading (style : Quotation) (source : List Char) : Nat :=
  (source.takeWhile (· == style.quote)).length

/-- Reads a text up to its closing quotes, and these. While `skipping`, line breaks and blanks are
passed over. One or two quotes may stand next to the three closing ones and belong to the text. -/
def body (style : Quotation) (skipping : Bool) : Reader (List Char)
  | [] => none
  | char :: rest =>
    if char = '\r' then
      match rest with
      | '\n' :: rest =>
        if skipping then style.body true rest
        else if style.lines then before '\n' (style.body false rest)
        else none
      | _ => none
    else if skipping && (isSpace char || char == '\n') then style.body true rest
    else if char = '\n' then
      if style.lines then before '\n' (style.body false rest) else none
    else if char = style.quote then
      if style.lines then
        let more := style.leading rest
        if more < 2 then before char (style.body false rest)
        else
          let kept := min (more - 2) 2
          some (List.replicate kept char, rest.drop (2 + kept))
      else some ([], rest)
    else if style.escapes && char == '\\' then
      match rest with
      | 'u' :: a :: b :: c :: d :: rest =>
        match codePoint? [a, b, c, d] with
        | some char => before char (style.body false rest)
        | none => none
      | 'U' :: a :: b :: c :: d :: e :: f :: g :: h :: rest =>
        match codePoint? [a, b, c, d, e, f, g, h] with
        | some char => before char (style.body false rest)
        | none => none
      | letter :: others =>
        match escape? letter with
        | some char => before char (style.body false others)
        | none =>
          if style.lines && hidesBreak (letter :: others) then style.body true (letter :: others)
          else none
      | [] => none
    else if isPlain char then before char (style.body false rest)
    else none

/-- Reads a text in a style, after the opening quotes. A line break right after three quotes does
not count. -/
def content (style : Quotation) (source : List Char) : Option (String × List Char) :=
  let start := if style.lines then (lineBreak? source).getD source else source
  match style.body false start with
  | some (chars, rest) => some (String.ofList chars, rest)
  | none => none

/-- Reads a text on a single line. -/
def line : Reader String
  | '"' :: rest => basic.content rest
  | '\'' :: rest => literal.content rest
  | _ => none

/-- Reads a text in any style. -/
def text : Reader String
  | '"' :: '"' :: '"' :: rest => basicLines.content rest
  | '\'' :: '\'' :: '\'' :: rest => literalLines.content rest
  | source => line source

end Reading

section Writing

/-- A character of which only an escape can be written. -/
def needsEscape (char : Char) : Bool := !isPlain char && char != '\n'

/-- The longest run of a character in a text that follows `run` of them. -/
def longestRun (quote : Char) (run : Nat) : List Char → Nat
  | [] => run
  | char :: rest =>
    if char = quote then longestRun quote (run + 1) rest
    else max run (longestRun quote 0 rest)

/-- The style in which a text is written: the first without escapes that holds it, else the basic
one. -/
def choose (chars : List Char) : Quotation :=
  let escaped := chars.any needsEscape
  let slashed := chars.contains '\\'
  let broken := chars.contains '\n'
  let doubles := longestRun '"' 0 chars
  let singles := longestRun '\'' 0 chars
  if !escaped && !slashed && doubles == 0 && !broken then basic
  else if !escaped && singles == 0 && !broken then literal
  else if !escaped && !slashed && doubles ≤ 2 then basicLines
  else if !escaped && singles ≤ 2 then literalLines
  else if broken then basicLines
  else basic

/-- A code point in four upper-case hexadecimal digits. -/
def fourDigits (value : Nat) : List Char :=
  [value / 4096, value / 256 % 16, value / 16 % 16, value % 16].map fun digit =>
    if digit < 10 then Char.ofNat ('0'.toNat + digit) else Char.ofNat ('A'.toNat + digit - 10)

/-- A character, other than a quote or a line break, where escapes are understood. -/
def escaped (char : Char) : List Char :=
  if char = '\x08' then ['\\', 'b']
  else if char = '\t' then ['\\', 't']
  else if char = '\n' then ['\\', 'n']
  else if char = '\x0c' then ['\\', 'f']
  else if char = '\r' then ['\\', 'r']
  else if char = '\\' then ['\\', '\\']
  else if isPlain char then [char]
  else '\\' :: 'u' :: fourDigits char.toNat

/-- How many quotes may follow each other unescaped. -/
def quotesAllowed (style : Quotation) : Nat := if style.lines then 2 else 0

/-- The characters of a text, where escapes are understood and `run` quotes stand before. -/
def escapedAll (style : Quotation) (run : Nat) : List Char → List Char
  | [] => []
  | char :: rest =>
    if char = style.quote then
      if run < style.quotesAllowed then char :: style.escapedAll (run + 1) rest
      else '\\' :: char :: style.escapedAll 0 rest
    else if style.lines && char == '\n' then char :: style.escapedAll 0 rest
    else escaped char ++ style.escapedAll 0 rest

/-- A text between the quotes of a style. A text with line breaks starts on a line of its own. -/
def write (style : Quotation) (chars : List Char) : List Char :=
  let start := if style.lines && chars.contains '\n' then ['\n'] else []
  let inner := if style.escapes then style.escapedAll 0 chars else chars
  style.delimiter ++ start ++ inner ++ style.delimiter

end Writing

end Quotation

end TrainingLauncher.Toml
