/-
Variables as a boxed table of two columns. Names stand at the right end of theirs, values in the
middle; of a long value only the end is shown, so that the table keeps its width. No text can be put
into a column that is too wide: a launcher that has to show a name of that length stops on the spot,
and there is no table.
-/

import TrainingLauncher.Environment

namespace TrainingLauncher.Environment

/-- The width of the column of values. -/
def valueWidth : Nat := 45

/-- The space between the columns. -/
def columnGap : Nat := 2

/-- The widest column that texts are put into. -/
def widestColumn : Nat := 65535

/-- A row of one character. -/
def rule (char : Char) (width : Nat) : String := String.ofList (List.replicate width char)

/-- Puts a text at the right end of a column, unless the column is too wide. -/
def alignRight? (width : Nat) (text : String) : Option String :=
  if width ≤ widestColumn then some (rule ' ' (width - text.length) ++ text) else none

/-- Puts a text in the middle of a column, unless the column is too wide; a space that is left over
goes to the right. -/
def alignCentre? (width : Nat) (text : String) : Option String :=
  if width ≤ widestColumn then
    let free := width - text.length
    some (rule ' ' (free / 2) ++ text ++ rule ' ' ((free + 1) / 2))
  else none

/-- The last characters of a text, if it has so many. -/
def ending? (count : Nat) (text : String) : Option String :=
  if count ≤ text.length then some (String.ofList (text.toList.drop (text.length - count)))
  else none

/-- The value as the table shows it: whole if it is shorter than its column, else its end. -/
def shownValue? (value : String) : Option String :=
  if value.length < valueWidth then some value else (ending? 41 value).map ("... " ++ ·)

/-- The width of the column of names: that of the longest name in bytes, and at least 40. -/
def nameWidth (environment : Environment) : Nat :=
  (environment.keys.map String.utf8ByteSize).foldl max 40

/-- A line of the table with a name and a value. -/
def tableRow? (width : Nat) (name value : String) : Option String := do
  let left ← alignRight? width name
  let right ← alignCentre? valueWidth value
  return "    |" ++ left ++ rule ' ' columnGap ++ right ++ "|"

/-- A line of the table that separates. -/
def tableBorder (char : Char) (width : Nat) : String :=
  "    +" ++ rule char (width + valueWidth + columnGap) ++ "+"

/-- The line of a variable. -/
def variableRow? (width : Nat) (entry : String × String) : Option String := do
  tableRow? width entry.1 (← shownValue? entry.2)

/-- The lines of the header and of the variables between their borders. -/
def framed (width : Nat) (head : String) (rows : List String) : List String :=
  [tableBorder '=' width, head, tableBorder '-' width] ++ rows ++ [tableBorder '=' width]

/-- The lines of the table. -/
def tableLines? (environment : Environment) (header : String × String) :
    Option (List String) := do
  let width := nameWidth environment
  let head ← tableRow? width header.1 header.2
  let rows ← environment.toList.mapM (variableRow? width)
  return framed width head rows

/-- The table, on lines of its own, if there is one. -/
def table? (environment : Environment) (header : String × String) : Option String := do
  let lines ← environment.tableLines? header
  return "\n" ++ String.join (lines.map (· ++ "\n"))

/-- The table as a note shows it. There always is one for the variables of a job, whose names are
short. -/
def table (environment : Environment) (header : String × String) : String :=
  (environment.table? header).getD ""

end TrainingLauncher.Environment
