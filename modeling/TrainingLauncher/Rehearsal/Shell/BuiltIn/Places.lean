/-
The commands of a shell about where it is and what it may do: the directory, the mask of the files
it creates, its limits, and the time it has taken.
-/

import TrainingLauncher.Rehearsal.Shell.BuiltIn

namespace TrainingLauncher.Rehearsal.Shell

section Directories

/-- The directory that a path leads to from another one, without dots: two of them go up by a
name. -/
def logicalPath (directory path : String) : String :=
  let start := if path.startsWith "/" then [] else FileTree.names directory
  let names := (FileTree.names path).foldl (fun names name =>
    if name = "." then names else if name = ".." then names.dropLast else names ++ [name]) start
  "/" ++ Text.joined "/" names

/-- Enters a directory; the answer tells whether there is one. -/
def enter (path : String) : Conduct Bool := do
  let before := (← get).directory
  let logical := logicalPath before path
  match ← ask (.enter logical) with
  | .error _ => return false
  | .ok () =>
    assign "OLDPWD" before true
    assign "PWD" logical true
    modify ({ · with directory := logical })
    return true

/-- Enters the first directory that is one of some directories' own; the answer is where it is. -/
def enterBelow (path : String) : List String → Conduct (Option String)
  | [] => return none
  | directory :: rest => do
    let whole := if directory.isEmpty then path else directory ++ "/" ++ path
    match ← ask (.view whole) with
    | .ok (.directory _) => if ← enter whole then return some directory else enterBelow path rest
    | _ => enterBelow path rest

/-- Goes to another directory. -/
def changeDirectory : BuiltIn := fun words => do
  let (_, words) ← options "LP" words
  let state ← get
  let value (name : String) : String := (state.value? name).getD ""
  let goesBack := words.head? = some "-"
  let path :=
    match words.head? with
    | none => value "HOME"
    | some word => if goesBack then value "OLDPWD" else word
  let shown : Conduct Report := return .line (← get).directory
  let isPlain := path.startsWith "/" || path = "." || path = ".." || path.startsWith "./" ||
    path.startsWith "../"
  if isPlain then
    if ← enter path then (if goesBack then shown else return .silent 0)
    else refuse ("can't cd to " ++ path)
  else
    let target := if path.isEmpty then "." else path
    let directories := ((value "CDPATH").splitOn ":") ++ [""]
    match ← enterBelow target directories with
    | some directory => if goesBack || !directory.isEmpty then shown else return .silent 0
    | none => refuse ("can't cd to " ++ path)

/-- Tells which directory the shell is in. -/
def showDirectory : BuiltIn := fun words => do
  let (letters, _) ← options "LP" words
  if letters.getLast?.any (·.1 == 'P') then return .line (← ask .whereabouts)
  else return .line (← get).directory

end Directories

section Limits

/-- The digits of a number in base eight, at least so many. -/
def octalDigits (least value : Nat) : String :=
  let digits := String.ofList (Nat.toDigits 8 value)
  String.ofList (List.replicate (least - digits.length) '0') ++ digits

/-- The number that digits in base eight make. -/
def octal? (word : String) : Option Nat :=
  if !word.isEmpty && word.toList.all fun char => '0' ≤ char && char ≤ '7' then
    some (word.toList.foldl (fun value char => 8 * value + (char.toNat - '0'.toNat)) 0)
  else none

/-- What a mask leaves to the owner, the group and others, in letters. -/
def maskLetters (mask : Nat) : String :=
  let part (name : String) (bits : Nat) : String :=
    let letter (bit : Nat) (text : String) : String := if bits / bit % 2 = 0 then text else ""
    name ++ "=" ++ letter 4 "r" ++ letter 2 "w" ++ letter 1 "x"
  Text.joined "," [part "u" (mask / 64 % 8), part "g" (mask / 8 % 8), part "o" (mask % 8)]

/-- A mask changed by letters: for whom, how, and what. -/
def changedMask? (mask : Nat) (text : String) : Option Nat := do
  let apply (mask : Nat) (clause : String) : Option Nat := do
    let chars := clause.toList
    let whom := chars.takeWhile ['u', 'g', 'o', 'a'].contains
    let sign :: what := chars.drop whom.length | none
    if !what.all ['r', 'w', 'x'].contains || !(['=', '+', '-'].contains sign) then none
    else
      let bits := (if what.contains 'r' then 4 else 0) + (if what.contains 'w' then 2 else 0) +
        (if what.contains 'x' then 1 else 0)
      let change (letter : Char) (old : Nat) : Nat :=
        if whom.isEmpty || whom.contains letter || whom.contains 'a' then
          match sign with
          | '=' => 7 - bits
          | '+' => old &&& (7 - bits)
          | _ => old ||| bits
        else old
      some (64 * change 'u' (mask / 64 % 8) + 8 * change 'g' (mask / 8 % 8) + change 'o' (mask % 8))
  (text.splitOn ",").foldlM apply mask

/-- Shows the mask of new files, or changes it. -/
def maskFiles : BuiltIn := fun words => do
  let (letters, words) ← options "S" words
  let mask := (← get).mask
  match words with
  | [] =>
    return .line (if letters.isEmpty then octalDigits 4 mask else maskLetters mask)
  | word :: _ =>
    if (word.toList.headD ' ').isDigit then
      match octal? word with
      | some value => modify ({ · with mask := value % 512 })
      | none => refuse ("Illegal number: " ++ word)
    else
      match changedMask? mask word with
      | some value => modify ({ · with mask := value })
      | none => refuse ("Illegal mode: " ++ word)
    return .silent 0

/-- Shows a limit; none is ever reached. -/
def limits : BuiltIn := fun words => do
  let (_, words) ← options "HSatfdsmcnpvwrl" words
  return if words.isEmpty then .line "unlimited" else .silent 0

/-- Shows the time that the shell and its children have worked, which is none. -/
def times : BuiltIn := fun _ =>
  let line := "0m0.000000s 0m0.000000s\n"
  return ⟨0, line ++ line⟩

end Limits

end TrainingLauncher.Rehearsal.Shell
