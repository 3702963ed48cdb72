/-
Dates and times of day. A date may be followed by a time, and that by an offset from universal
time; a time of day may also stand alone.
-/

import TrainingLauncher.Toml.Number

namespace TrainingLauncher.Toml.Moment

/-- Reads a number of exactly two digits. -/
def twoDigits : Reader Nat
  | first :: second :: rest =>
    if first.isDigit && second.isDigit then some (Number.value 10 [first, second], rest) else none
  | _ => none

/-- Reads a number of two digits between two bounds. -/
def between (least most : Nat) (source : List Char) : Option (List Char) :=
  match twoDigits source with
  | some (value, rest) => if least ≤ value ∧ value ≤ most then some rest else none
  | none => none

/-- What follows a character that must be there. -/
def after (expected : Char) : List Char → Option (List Char)
  | [] => none
  | char :: rest => if char = expected then some rest else none

/-- The number of days of a month. -/
def daysIn (year month : Nat) : Nat :=
  let leap := year % 4 = 0 ∧ (year % 100 ≠ 0 ∨ year % 400 = 0)
  if month = 2 then (if leap then 29 else 28)
  else if [4, 6, 9, 11].contains month then 30
  else 31

/-- What follows a date. -/
def date (source : List Char) : Option (List Char) := do
  let (century, rest) ← twoDigits source
  let (inCentury, rest) ← twoDigits rest
  let (month, rest) ← twoDigits (← after '-' rest)
  let (day, rest) ← twoDigits (← after '-' rest)
  if 1 ≤ month ∧ month ≤ 12 ∧ 1 ≤ day ∧ day ≤ daysIn (100 * century + inCentury) month then
    return rest
  else none

/-- What follows a time of day; a minute may have a sixty-first second. -/
def time (source : List Char) : Option (List Char) := do
  let rest ← between 0 23 source
  let rest ← between 0 59 (← after ':' rest)
  let rest ← between 0 60 (← after ':' rest)
  match rest with
  | '.' :: first :: others =>
    if first.isDigit then return others.dropWhile Char.isDigit else return rest
  | _ => return rest

/-- What follows an offset. -/
def offset : List Char → Option (List Char)
  | 'Z' :: rest | 'z' :: rest => some rest
  | '+' :: rest | '-' :: rest => do
    let rest ← between 0 23 rest
    between 0 59 (← after ':' rest)
  | _ => none

/-- What follows a time that may have an offset. -/
def timeWithOffset (source : List Char) : Option (List Char) := do
  let rest ← time source
  return (offset rest).getD rest

/-- What follows the time of a date, if there is one; a letter or a space parts the two. -/
def timeOfDate (source : List Char) : List Char :=
  match source with
  | 'T' :: rest | 't' :: rest | ' ' :: rest => (timeWithOffset rest).getD source
  | _ => source

/-- What follows a date, a time of day or both. -/
def afterMoment (source : List Char) : Option (List Char) :=
  match date source with
  | some rest => some (timeOfDate rest)
  | none => time source

end TrainingLauncher.Toml.Moment
