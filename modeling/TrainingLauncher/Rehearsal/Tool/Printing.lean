/-
Programs that print their arguments: as words, and by a pattern. A shell does this work itself in a
slightly different way, so each function is told who asks.
-/

import TrainingLauncher.Rehearsal.Shell.Arithmetic
import TrainingLauncher.Rehearsal.Tool.Usage

namespace TrainingLauncher.Rehearsal.Tool

open Shell (digit? digits prefixedNumber largest)

/-- Who prints. -/
inductive Printer where
  | shell
  | program
  deriving DecidableEq, Repr

section Escapes

/-- The value of octal digits at the start of a text, at most `bound` of them. -/
def octal (value : Nat) : (bound : Nat) → List Char → Nat × List Char
  | bound + 1, char :: rest =>
    if '0' ≤ char ∧ char ≤ '7' then octal (8 * value + (char.toNat - '0'.toNat)) bound rest
    else (value, char :: rest)
  | _, source => (value, source)

/-- The octet of a number. -/
def octet (value : Nat) : String := (Char.ofNat (value % 256)).toString

/-- What a letter after a backslash stands for. -/
def control? : Char → Option Char
  | 'a' => some '\x07'
  | 'b' => some '\x08'
  | 'f' => some '\x0c'
  | 'n' => some '\n'
  | 'r' => some '\r'
  | 't' => some '\t'
  | 'v' => some '\x0b'
  | 'e' => some '\x1b'
  | '\\' => some '\\'
  | _ => none

/-- The value of hexadecimal digits at the start of a text, at most two. -/
def hexadecimal? : List Char → Option (Nat × List Char)
  | first :: second :: rest =>
    match digit? first, digit? second with
    | some high, some low => some (16 * high + low, rest)
    | some value, none => some (value, second :: rest)
    | none, _ => none
  | [first] => (digit? first).map (·, [])
  | [] => none

/-- Reads what follows a backslash: what it stands for, and what is left. -/
def escape (printer : Printer) : List Char → String × List Char
  | [] => ("\\", [])
  | 'x' :: rest =>
    match if printer = .program then hexadecimal? rest else none with
    | some (value, after) => (octet value, after)
    | none => ("\\x", rest)
  | letter :: rest =>
    match control? letter with
    | some char => (char.toString, rest)
    | none =>
      if '0' ≤ letter ∧ letter ≤ '7' then
        let (value, after) := octal 0 3 (letter :: rest)
        (octet value, after)
      else (String.ofList ['\\', letter], rest)

/-- A text with its escapes replaced, in at most `bound` pieces, and whether an escape has ended all
printing. A zero may stand before three octal digits. -/
def unescaped (printer : Printer) : (bound : Nat) → List Char → String × Bool
  | 0, _ | _, [] => ("", false)
  | _, '\\' :: 'c' :: _ => ("", true)
  | bound + 1, '\\' :: '0' :: rest =>
    let (value, after) := octal 0 3 rest
    let (others, ended) := unescaped printer bound after
    (octet value ++ others, ended)
  | bound + 1, '\\' :: rest =>
    let (shown, after) := escape printer rest
    let (others, ended) := unescaped printer bound after
    (shown ++ others, ended)
  | bound + 1, char :: rest =>
    let (others, ended) := unescaped printer bound rest
    (char.toString ++ others, ended)

end Escapes

section Words

/-- Words with spaces between them, perhaps with a line break. -/
def wordsShown (printer : Printer) (escapes ends : Bool) (words : List String) : String :=
  let text := Text.joined " " words
  let (shown, ended) :=
    if escapes then unescaped printer text.length text.toList else (text, false)
  if ends && !ended then shown ++ "\n" else shown

/-- The letters of an option that tells how words are printed. -/
def echoOption? (word : String) : Option (List Char) :=
  match word.toList with
  | '-' :: letter :: letters =>
    if (letter :: letters).all ['n', 'e', 'E'].contains then some (letter :: letters) else none
  | _ => none

/-- Words as a program prints them. The first ones may say that there is no line break, or that
escapes are understood. -/
def echoWords (ends escapes : Bool) : List String → String
  | [] => wordsShown .program escapes ends []
  | word :: rest =>
    match echoOption? word with
    | some letters =>
      let escapes := letters.foldl (fun escapes letter =>
        if letter = 'n' then escapes else letter == 'e') escapes
      echoWords (ends && !letters.contains 'n') escapes rest
    | none => wordsShown .program escapes ends (word :: rest)

/-- Words as they are printed. A shell always understands escapes, and knows one option. -/
def echoed (printer : Printer) (words : List String) : String :=
  match printer, words with
  | .shell, "-n" :: rest => wordsShown .shell true false rest
  | .shell, words => wordsShown .shell true true words
  | .program, words => echoWords true false words

/-- Prints the arguments. -/
def echo : Body τ := fun usage => do
  print (echoed .program usage.arguments)
  return 0

end Words

section Patterns

/-- How a value is laid out: aligned to the left, filled with zeros, with a sign, marked; its least
width and its precision. -/
structure Layout where
  left : Bool
  zeros : Bool
  plus : Bool
  space : Bool
  marked : Bool
  width : Nat
  precision : Option Nat

/-- A text with spaces up to the width of a layout. -/
def Layout.filled (layout : Layout) (text : String) : String :=
  let spaces := String.ofList (List.replicate (layout.width - text.length) ' ')
  if layout.left then text ++ spaces else spaces ++ text

/-- A number in a layout, from its sign and its digits. -/
def Layout.number (layout : Layout) (sign digits : String) : String :=
  let least :=
    match layout.precision with
    | some places => places
    | none => if layout.zeros && !layout.left then layout.width - sign.length else 0
  let zeros := String.ofList (List.replicate (least - digits.length) '0')
  layout.filled (sign ++ zeros ++ digits)

/-- Reads the letters that stand before the width. -/
def flags (layout : Layout) : List Char → Layout × List Char
  | '-' :: rest => flags { layout with left := true } rest
  | '0' :: rest => flags { layout with zeros := true } rest
  | '+' :: rest => flags { layout with plus := true } rest
  | ' ' :: rest => flags { layout with space := true } rest
  | '#' :: rest => flags { layout with marked := true } rest
  | rest => (layout, rest)

/-- How much of a word is a number. -/
inductive Numeric where
  | whole
  | start
  | nothing
  | beyond
  deriving DecidableEq, Repr

/-- The number that a word stands for, and how much of the word it is. -/
def numericValue (word : String) : Int × Numeric :=
  let signed (negative : Bool) (source : List Char) : Int × Numeric :=
    let (value, after) := prefixedNumber source
    if !(source.headD ' ').isDigit then (0, .nothing)
    else
      let limit := if negative then largest + 1 else largest
      let value := min value limit
      let shown : Int := if negative then -(value : Int) else value
      (shown, if !after.isEmpty then .start else .whole)
  match word.toList.dropWhile fun char => char == ' ' || char == '\t' || char == '\n' with
  | [] => (0, if word.isEmpty then .whole else .nothing)
  | '\'' :: char :: _ | '"' :: char :: _ => (char.toNat, .whole)
  | '-' :: rest => signed true rest
  | '+' :: rest | rest => signed false rest

/-- What is wrong with a word that should be a number. -/
def Numeric.complaint? (printer : Printer) (word : String) : Numeric → Option String
  | whole => none
  | beyond =>
    some (if printer = .shell then word ++ ": Numerical result out of range"
      else "'" ++ word ++ "': Numerical result out of range")
  | start => some (if printer = .shell then word ++ ": not completely converted"
      else "'" ++ word ++ "': value not completely converted")
  | nothing => some (if printer = .shell then word ++ ": expected numeric value"
      else "'" ++ word ++ "': expected a numeric value")

/-- A number with places after the point: a whole number of units and how many of them make one. -/
structure Fraction where
  negative : Bool
  units : Nat
  scale : Nat

/-- The number with a point that a word stands for. -/
def fraction (word : String) : Fraction :=
  let signed (negative : Bool) (source : List Char) : Fraction :=
    let whole := source.takeWhile Char.isDigit
    let places :=
      match source.drop whole.length with
      | '.' :: rest => rest.takeWhile Char.isDigit
      | _ => []
    ⟨negative, (digits 10 0 (whole ++ places)).1, Nat.pow 10 places.length⟩
  match word.toList with
  | '-' :: rest => signed true rest
  | '+' :: rest | rest => signed false rest

/-- The digits of a number with a point, to so many places. -/
def Fraction.digits (fraction : Fraction) (places : Nat) : String :=
  let scaled := fraction.units * Nat.pow 10 places
  let rounded := (2 * scaled + fraction.scale) / (2 * fraction.scale)
  let text := toString rounded
  let text := String.ofList (List.replicate (places + 1 - text.length) '0') ++ text
  let whole := (text.dropEnd places).toString
  if places = 0 then text else whole ++ "." ++ (text.drop whole.length).toString

/-- What has been printed by a pattern so far. -/
structure Printed where
  text : String
  complaints : List String
  /-- The arguments that are left. -/
  left : List String
  /-- Nothing more is printed. -/
  ended : Bool
  status : Nat

/-- The letters that tell how values are printed. -/
def valueLetters : List Char := ['s', 'c', 'b', 'd', 'i', 'u', 'o', 'x', 'X', 'f', 'F']

/-- Prints a value in a layout. -/
def Printed.value (printed : Printed) (printer : Printer) (layout : Layout) (kind : Char) :
    Printed :=
  let word := printed.left.headD ""
  let text (text : String) : Printed :=
    { printed with text := printed.text ++ text, left := printed.left.tail }
  let (value, numeric) := numericValue word
  let number (shown : String) : Printed :=
    match if printed.left.isEmpty then none else numeric.complaint? printer word with
    | none => text shown
    | some complaint =>
      { text shown with complaints := printed.complaints ++ [complaint], status := 1 }
  let unsigned := (value % 18446744073709551616).toNat
  let inBase (base : Nat) : String := String.ofList (Nat.toDigits base unsigned)
  let sign (negative : Bool) : String :=
    if negative then "-" else if layout.plus then "+" else if layout.space then " " else ""
  match kind with
  | 's' =>
    text (layout.filled
      (match layout.precision with
      | some places => (word.take places).toString
      | none => word))
  | 'c' => text (layout.filled (word.take 1).toString)
  | 'b' =>
    let (shown, ended) := unescaped printer word.length word.toList
    { text (layout.filled shown) with ended }
  | 'd' | 'i' => number (layout.number (sign (value < 0)) (toString value.natAbs))
  | 'u' => number (layout.number "" (inBase 10))
  | 'o' => number (layout.number (if layout.marked then "0" else "") (inBase 8))
  | 'x' => number (layout.number (if layout.marked then "0x" else "") (inBase 16))
  | 'X' =>
    let shown := String.ofList ((inBase 16).toList.map Char.toUpper)
    number (layout.number (if layout.marked then "0X" else "") shown)
  | _ =>
    let value := fraction word
    text ({ layout with precision := none }.number (sign value.negative)
      (value.digits (layout.precision.getD 6)))

/-- Reads a number in a pattern; a star takes the next argument. -/
def Printed.measure (printed : Printed) : List Char → Nat × Printed × List Char
  | '*' :: rest =>
    ((numericValue (printed.left.headD "")).1.toNat,
      { printed with left := printed.left.tail }, rest)
  | rest =>
    let (value, after) := digits 10 0 rest
    (value, printed, after)

/-- Cannot go on with a pattern. -/
def Printed.broken (printed : Printed) (printer : Printer) (complaint : String) : Printed :=
  { printed with
    complaints := printed.complaints ++ [complaint]
    ended := true
    status := if printer = .shell then 2 else 1 }

/-- Prints a pattern once, in at most `bound` pieces. -/
def formatOnce (printer : Printer) (printed : Printed) : (bound : Nat) → List Char → Printed
  | 0, _ | _, [] => printed
  | bound + 1, '%' :: '%' :: rest =>
    formatOnce printer { printed with text := printed.text ++ "%" } bound rest
  | bound + 1, '%' :: source =>
    let (layout, rest) := flags ⟨false, false, false, false, false, 0, none⟩ source
    let (width, printed, rest) := printed.measure rest
    let (precision, printed, rest) :=
      match rest with
      | '.' :: rest =>
        let (places, printed, rest) := printed.measure rest
        (some places, printed, rest)
      | rest => (none, printed, rest)
    let shown := "%" ++ String.ofList (source.take (source.length - rest.length + 1))
    match rest with
    | [] => printed.broken printer
        (if printer = .shell then "missing format character"
          else shown ++ ": invalid conversion specification")
    | kind :: rest =>
      if valueLetters.contains kind then
        let printed := printed.value printer { layout with width, precision } kind
        if printed.ended then printed else formatOnce printer printed bound rest
      else printed.broken printer
        (shown ++ if printer = .shell then ": invalid directive"
          else ": invalid conversion specification")
  | _, '\\' :: 'c' :: _ => { printed with ended := true }
  | bound + 1, '\\' :: '"' :: rest =>
    formatOnce printer { printed with text := printed.text ++ "\"" } bound rest
  | bound + 1, '\\' :: rest =>
    let (shown, after) := escape printer rest
    formatOnce printer { printed with text := printed.text ++ shown } bound after
  | bound + 1, char :: rest =>
    formatOnce printer { printed with text := printed.text.push char } bound rest

/-- Prints a pattern as often as the arguments last. -/
def formatAll (printer : Printer) (pattern : List Char) : (bound : Nat) → Printed → Printed
  | 0, printed => printed
  | bound + 1, printed =>
    let after := formatOnce printer printed (pattern.length + 1) pattern
    if after.ended || after.left.isEmpty || after.left.length = printed.left.length then after
    else formatAll printer pattern bound after

/-- What is printed by a pattern with arguments. -/
def formatted (printer : Printer) (pattern : String) (arguments : List String) : Printed :=
  formatAll printer pattern.toList (arguments.length + 1) ⟨"", [], arguments, false, 0⟩

/-- Prints by a pattern. -/
def printf : Body τ := fun usage => do
  match if usage.arguments.head? = some "--" then usage.arguments.tail else usage.arguments with
  | [] => usage.refuseWithHelp 1 "missing operand"
  | pattern :: arguments =>
    let printed := formatted .program pattern arguments
    printed.complaints.forM usage.complain
    print printed.text
    return printed.status

end Patterns

end TrainingLauncher.Rehearsal.Tool
