/-
Lower case. Every letter goes to its partner; a capital sigma at the end of a word goes to the
final form of the letter, and a capital I with a dot keeps the dot as a mark of its own.
-/

import TrainingLauncher.Text.Property.CaseIgnorable
import TrainingLauncher.Text.Property.Cased
import TrainingLauncher.Text.Property.Lowercase

namespace TrainingLauncher.Text

/-- A run names a letter when the letter is one of its steps. -/
def CaseRun.holds (run : CaseRun) (char : Char) : Bool :=
  run.first ≤ char.toNat && char.toNat ≤ run.last && (char.toNat - run.first) % run.step == 0

/-- The lower-case form of a letter that stands alone. -/
def lowercaseChar (char : Char) : List Char :=
  if char = 'İ' then ['i', '\u0307']
  else match lowercaseRuns.find? (·.holds char) with
    | some run => [Char.ofNat (char.toNat + run.shift).toNat]
    | none => [char]

/-- The next character that casing rules do not look through is a letter with a case. -/
def meetsLetter (chars : List Char) : Bool :=
  match chars.dropWhile (inRanges caseIgnorableRanges) with
  | [] => false
  | char :: _ => inRanges casedRanges char

/-- The lower-case form of `rest`, where `before` holds the characters in front of it, the nearest
first. -/
def lowercaseAfter (before : List Char) : List Char → List Char
  | [] => []
  | char :: rest =>
    let lowered :=
      if char = 'Σ' then
        if meetsLetter before && !meetsLetter rest then ['ς'] else ['σ']
      else lowercaseChar char
    lowered ++ lowercaseAfter (char :: before) rest

/-- A text in lower case. -/
def lowercase (text : String) : String := String.ofList (lowercaseAfter [] text.toList)

end TrainingLauncher.Text
