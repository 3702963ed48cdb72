/-
Expressions in words: numbers, comparisons, and patterns of texts. A value is a word; whether it is
a number is found out where one is needed.
-/

import TrainingLauncher.Rehearsal.Tool.Regular
import TrainingLauncher.Rehearsal.Tool.Streams

namespace TrainingLauncher.Rehearsal.Tool

section Values

/-- The number that a word is. -/
def integer? (word : String) : Option Int :=
  match word.toList with
  | '-' :: digits => (natural? (String.ofList digits)).map fun value => -(value : Int)
  | _ => (natural? word).map fun value => value

/-- A word counts as nothing. -/
def isNull (word : String) : Bool := word.isEmpty || integer? word == some 0

/-- What a pattern matches at the start of a word: its first group, or how long it is. -/
def matchedStart (word pattern : String) : Except String String := do
  let regular ← Regular.ofText .basic pattern
  let hasGroup := (pattern.splitOn "\\(").length > 1
  match regular.matchAt? ⟨word.toList.toArray, false⟩ 0 with
  | none => return if hasGroup then "" else "0"
  | some found =>
    if hasGroup then
      match found.groups.lookup 1 with
      | some (start, finish) => return String.ofList ((word.toList.take finish).drop start)
      | none => return ""
    else return toString found.finish

/-- The value of an operator between two words. -/
def calculate (sign one other : String) : Except String String := do
  let numbers (operate : Int → Int → Except String Int) : Except String String := do
    match integer? one, integer? other with
    | some left, some right => return toString (← operate left right)
    | _, _ => throw "non-integer argument"
  let compared (holds : Ordering → Bool) : Except String String :=
    let order :=
      match integer? one, integer? other with
      | some left, some right => compare left right
      | _, _ => compare one other
    return if holds order then "1" else "0"
  let divided (operate : Int → Int → Int) : Except String String :=
    numbers fun left right =>
      if right = 0 then throw "division by zero" else return operate left right
  match sign with
  | "|" => return if isNull one then (if isNull other then "0" else other) else one
  | "&" => return if isNull one || isNull other then "0" else one
  | "<" => compared (· == .lt)
  | "<=" => compared (· != .gt)
  | "=" | "==" => compared (· == .eq)
  | "!=" => compared (· != .eq)
  | ">=" => compared (· != .lt)
  | ">" => compared (· == .gt)
  | "+" => numbers fun left right => return left + right
  | "-" => numbers fun left right => return left - right
  | "*" => numbers fun left right => return left * right
  | "/" => divided Int.tdiv
  | "%" => divided Int.tmod
  | _ => matchedStart one other

end Values

section Reading

/-- Reads a value from words: the value, the latest word that was read, and what is left. -/
abbrev Calculation := String → List String → Except String (String × String × List String)

/-- The operators between two values, from the weakest to the strongest. -/
def calculationLevels : List (List String) := [
  ["|"], ["&"], ["<", "<=", "=", "==", "!=", ">=", ">"], ["+", "-"], ["*", "/", "%"], [":"]]

/-- A word is missing. -/
def missingAfter (latest : String) : Except String α :=
  throw ("syntax error: missing argument after '" ++ latest ++ "'")

/-- Reads the operators of one strength, at most `bound`. -/
def readCalculations (operand : Calculation) (signs : List String) :
    (bound : Nat) → String → Calculation
  | bound + 1, left, latest, sign :: rest => do
    if signs.contains sign then
      let (right, latest, rest) ← operand sign rest
      readCalculations operand signs bound (← calculate sign left right) latest rest
    else return (left, latest, sign :: rest)
  | _, left, latest, rest => return (left, latest, rest)

/-- Reads operators from a strength on, given how to read a single value. -/
def readStrengths (single : Calculation) : List (List String) → Calculation
  | [] => single
  | signs :: stronger => fun latest words => do
    let operand := readStrengths single stronger
    let (left, latest, rest) ← operand latest words
    readCalculations operand signs rest.length left latest rest

/-- Reads a single value, given how to read a whole expression and another single value. -/
def readOperand (whole single : Calculation) : Calculation
  | latest, [] => missingAfter latest
  | _, "(" :: rest => do
    match ← whole "(" rest with
    | (value, _, ")" :: rest) => return (value, ")", rest)
    | (_, latest, []) => throw ("syntax error: expecting ')' after '" ++ latest ++ "'")
    | (_, _, other :: _) => throw ("syntax error: expecting ')' instead of '" ++ other ++ "'")
  | _, "+" :: word :: rest => return (word, word, rest)
  | _, "length" :: rest => do
    let (word, latest, rest) ← single "length" rest
    return (toString word.length, latest, rest)
  | _, "match" :: rest => do
    let (word, latest, rest) ← single "match" rest
    let (pattern, latest, rest) ← single latest rest
    return (← matchedStart word pattern, latest, rest)
  | _, "index" :: rest => do
    let (word, latest, rest) ← single "index" rest
    let (chars, latest, rest) ← single latest rest
    let place := (word.toList.findIdx? fun char => chars.contains char).map (· + 1)
    return (toString (place.getD 0), latest, rest)
  | _, "substr" :: rest => do
    let (word, latest, rest) ← single "substr" rest
    let (start, latest, rest) ← single latest rest
    let (count, latest, rest) ← single latest rest
    match integer? start, integer? count with
    | some start, some count =>
      if start ≤ 0 || count ≤ 0 then return ("", latest, rest)
      else
        let part := (word.toList.drop (start.toNat - 1)).take count.toNat
        return (String.ofList part, latest, rest)
    | _, _ => return ("", latest, rest)
  | _, word :: rest => return (word, word, rest)

/-- The readers of a whole expression and of a single value, at most `bound` of them one inside the
other. -/
def calculations : (bound : Nat) → Calculation × Calculation
  | 0 => (fun latest _ => missingAfter latest, fun latest _ => missingAfter latest)
  | bound + 1 =>
    let (whole, single) := calculations bound
    let operand := readOperand whole single
    (readStrengths operand calculationLevels, operand)

/-- Shows the value of an expression; the status tells whether it is nothing. -/
def expr : Body τ := fun usage => do
  match usage.arguments with
  | [] => usage.refuseWithHelp 2 "missing operand"
  | words =>
    match (calculations (words.length + 1)).1 "" words with
    | .error complaint => usage.refuse 2 complaint
    | .ok (_, _, extra :: _) =>
      usage.refuse 2 ("syntax error: unexpected argument '" ++ extra ++ "'")
    | .ok (value, _, []) =>
      print (value ++ "\n")
      return if isNull value then 1 else 0

end Reading

end TrainingLauncher.Rehearsal.Tool
