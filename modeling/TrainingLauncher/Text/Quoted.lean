/-
Texts shown between quotes. A quote and a backslash get a backslash in front, the common control
characters their short form, and each other character that cannot be seen alone its code point in
braces; all the rest stands as it is.
-/

import TrainingLauncher.Text.Fields
import TrainingLauncher.Text.Property.Extender
import TrainingLauncher.Text.Property.Unprintable

namespace TrainingLauncher.Text

/-- A character that is seen by itself: it has a picture of its own and does not attach to the one
before it. -/
def isVisible (char : Char) : Bool :=
  if char.toNat < 0x7f then 0x20 ≤ char.toNat
  else !inRanges unprintableRanges char && !inRanges extenderRanges char

/-- A character as it is shown inside quotes. -/
def escaped (char : Char) : String :=
  if char = '"' then "\\\""
  else if char = '\\' then "\\\\"
  else if char = '\n' then "\\n"
  else if char = '\r' then "\\r"
  else if char = '\t' then "\\t"
  else if char = '\x00' then "\\0"
  else if isVisible char then char.toString
  else "\\u\x7b" ++ String.ofList (Nat.toDigits 16 char.toNat) ++ "\x7d"

/-- A text between quotes. -/
def quoted (text : String) : String :=
  "\"" ++ String.join (text.toList.map escaped) ++ "\""

/-- The items of a list between square brackets. -/
def bracketed (items : List String) : String := "[" ++ joined ", " items ++ "]"

/-- A list of texts, each between quotes. -/
def quotedList (texts : List String) : String := bracketed (texts.map quoted)

/-- A value that may be missing. -/
def showOption : Option String → String
  | none => "None"
  | some text => "Some(" ++ text ++ ")"

end TrainingLauncher.Text
