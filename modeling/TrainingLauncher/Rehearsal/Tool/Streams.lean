/-
Programs that pass on what they read, or a part of it.
-/

import TrainingLauncher.Rehearsal.Tool.Usage

namespace TrainingLauncher.Rehearsal.Tool

section Whole

/-- Passes on what is read from a descriptor, in at most `bound` pieces. -/
def passOn (descriptor : Nat) : (bound : Nat) → Activity τ (Except IoError Unit)
  | 0 => return .ok ()
  | bound + 1 => do
    match ← Activity.call (.read descriptor pieceSize) with
    | .error error => return .error error
    | .ok bytes =>
      if bytes.isEmpty then return .ok ()
      else
        let _ ← Activity.call (.write 1 bytes)
        passOn descriptor bound

/-- The lines of a text with their numbers, the first one without if it goes on with a line that was
begun before. -/
def numbered (number : Nat) (begun : Bool) (text : String) : String :=
  let shown := (linesOf text).zipIdx.map fun (line, index) =>
    if begun && index == 0 then line
    else
      let digits := toString (if begun then number + index - 1 else number + index)
      String.ofList (List.replicate (6 - digits.length) ' ') ++ digits ++ "\t" ++ line
  Text.joined "\n" shown ++ (if text.endsWith "\n" then "\n" else "")

/-- Passes on files, with the numbers of their lines. A line that is not ended goes on with the next
file. -/
def catNumbered (usage : Usage) (status number : Nat) (begun : Bool) :
    List String → Activity τ Nat
  | [] => return status
  | path :: rest => do
    match ← readFile path with
    | .ok text =>
      if text.isEmpty then catNumbered usage status number begun rest
      else
        print (numbered number begun text)
        let count := (linesOf text).length
        catNumbered usage status (if begun then number + count - 1 else number + count)
          (!text.endsWith "\n") rest
    | .error error =>
      usage.complain (plainly path error)
      catNumbered usage 1 number begun rest

/-- Passes on files. -/
def catAll (usage : Usage) (status : Nat) : List String → Activity τ Nat
  | [] => return status
  | path :: rest => do
    match ← withFile path (passOn · pieceLimit) with
    | .ok () => catAll usage status rest
    | .error error =>
      usage.complain (plainly path error)
      catAll usage 1 rest

/-- Passes on files one after the other. -/
def cat : Body τ := reading "nu" "" [("number", 'n')] false 1 fun arguments usage =>
  let paths := operands arguments
  let paths := if paths.isEmpty then ["-"] else paths
  if hasLetter 'n' arguments then catNumbered usage 0 1 false paths else catAll usage 0 paths

/-- Copies the input to files as well. -/
def teeTo (targets : List Nat) : (bound : Nat) → Activity τ Unit
  | 0 => return
  | bound + 1 => do
    match ← Activity.call (.read 0 pieceSize) with
    | .error _ => return
    | .ok bytes =>
      if bytes.isEmpty then return
      else
        targets.forM fun target => do
          let _ ← Activity.call (.write target bytes)
        teeTo targets bound

/-- Opens files to be written; those that cannot be opened are left out. -/
def openTargets (usage : Usage) (mode : OpenMode) : List String → Activity τ (List Nat × Nat)
  | [] => return ([], 0)
  | path :: rest => do
    match ← Activity.call (.open path mode) with
    | .ok descriptor =>
      let (targets, status) ← openTargets usage mode rest
      return (descriptor :: targets, status)
    | .error error =>
      usage.complain (plainly path error)
      let (targets, _) ← openTargets usage mode rest
      return (targets, 1)

/-- Passes on the input, to files as well. -/
def tee : Body τ := reading "ai" "" [("append", 'a')] false 1 fun arguments usage => do
  let mode := if hasLetter 'a' arguments then OpenMode.appending else OpenMode.replacing
  let (targets, status) ← openTargets usage mode (operands arguments)
  teeTo (1 :: targets) pieceLimit
  return status

/-- Writes a line over and over, at most `bound` times. -/
def writeOften (line : ByteArray) : (bound : Nat) → Activity τ Nat
  | 0 => return 0
  | bound + 1 => do
    match ← Activity.call (.write 1 line) with
    | .ok () => writeOften line bound
    | .error _ => return 1

/-- Writes a line for ever. -/
def yes : Body τ := fun usage =>
  let line := if usage.arguments.isEmpty then "y" else Text.joined " " usage.arguments
  let lines := String.join (List.replicate (pieceSize / (8 * (line.length + 1)) + 1) (line ++ "\n"))
  writeOften (Text.ofOctets lines) 1000000000

end Whole

section Ends

/-- Which part of a file is wanted. -/
structure Part where
  ofBytes : Bool
  count : Nat
  /-- The count is from the other end. -/
  turned : Bool

/-- Words in which a number after a minus sign counts lines. -/
def withCounts : List String → List String
  | [] => []
  | word :: rest =>
    match word.toList with
    | '-' :: digit :: digits =>
      if (digit :: digits).all Char.isDigit then
        "-n" :: String.ofList (digit :: digits) :: rest
      else word :: rest
    | _ => word :: rest

/-- The part that arguments ask for. -/
def part? (sign : Char) (arguments : List Argument) : Except String Part :=
  let latest := arguments.filterMap fun argument =>
    match argument with
    | .letter 'n' (some value) => some (false, value)
    | .letter 'c' (some value) => some (true, value)
    | _ => none
  match latest.getLast? with
  | none => .ok ⟨false, 10, false⟩
  | some (ofBytes, value) =>
    let (turned, digits) :=
      match value.toList with
      | first :: rest =>
        if first = sign then (true, rest)
        else if first = '-' || first = '+' then (false, rest)
        else (false, first :: rest)
      | [] => (false, [])
    match natural? (String.ofList digits) with
    | some count => .ok ⟨ofBytes, count, turned⟩
    | none => .error
        ("invalid number of " ++ (if ofBytes then "bytes" else "lines") ++ ": '" ++ value ++ "'")

/-- The lines of a text, each with the line break that ends it. -/
def wholeLines (text : String) : List String :=
  let lines := linesOf text
  if text.endsWith "\n" then lines.map (· ++ "\n")
  else lines.dropLast.map (· ++ "\n") ++ lines.getLast?.toList

/-- The part of a text at its start. -/
def Part.atStart (part : Part) (text : String) : String :=
  let keep (length : Nat) : Nat := if part.turned then length - part.count else part.count
  if part.ofBytes then (text.take (keep text.length)).toString
  else
    let lines := wholeLines text
    String.join (lines.take (keep lines.length))

/-- The part of a text at its end. -/
def Part.atEnd (part : Part) (text : String) : String :=
  let skip (length : Nat) : Nat := if part.turned then part.count - 1 else length - part.count
  if part.ofBytes then (text.drop (skip text.length)).toString
  else
    let lines := wholeLines text
    String.join (lines.drop (skip lines.length))

/-- Reads a descriptor until enough has been read, in at most `bound` pieces. -/
def readEnough (enough : String → Bool) (descriptor : Nat) :
    (bound : Nat) → String → Activity τ (Except IoError String)
  | 0, text => return .ok text
  | bound + 1, text => do
    if enough text then return .ok text
    match ← Activity.call (.read descriptor pieceSize) with
    | .error error => return .error error
    | .ok bytes =>
      if bytes.isEmpty then return .ok text
      else readEnough enough descriptor bound (text ++ Text.octets bytes)

/-- As much of a text has been read as the part at its start needs. -/
def Part.isRead (part : Part) (text : String) : Bool :=
  !part.turned && part.count ≤
    (if part.ofBytes then text.length else text.toList.countP (· == '\n'))

/-- Shows parts of files, with their names before them if `titled`. -/
def showParts (usage : Usage) (titled : Bool) (read : Nat → Activity τ (Except IoError String))
    (part : String → String) : (isFirst : Bool) → (status : Nat) → List String → Activity τ Nat
  | _, status, [] => return status
  | isFirst, status, path :: rest => do
    let content ←
      if path = "-" then read 0
      else
        match ← Activity.call (.open path .reading) with
        | .error error =>
          usage.complain ("cannot open '" ++ path ++ "' for reading: " ++ refusalWords error)
          return ← showParts usage titled read part isFirst 1 rest
        | .ok descriptor =>
          let content ← read descriptor
          Activity.call (.close descriptor)
          pure content
    let name := if path = "-" then "standard input" else path
    if titled then
      print ((if isFirst then "" else "\n") ++ "==> " ++ name ++ " <==\n")
    match content with
    | .ok text =>
      print (part text)
      showParts usage titled read part false status rest
    | .error error =>
      usage.complain ("error reading '" ++ name ++ "': " ++ refusalWords error)
      showParts usage titled read part false 1 rest

/-- A program that passes on a part of files. -/
def showing (sign : Char) (read : Part → Nat → Activity τ (Except IoError String))
    (cut : Part → String → String) : Body τ := fun usage =>
  let body := reading "qv" "nc" [("lines", 'n'), ("bytes", 'c'), ("quiet", 'q'), ("silent", 'q')]
    false 1 fun arguments usage =>
      match part? sign arguments with
      | .error complaint => usage.refuse 1 complaint
      | .ok part =>
        let paths := operands arguments
        let titled := hasLetter 'v' arguments || (paths.length > 1 && !hasLetter 'q' arguments)
        showParts usage titled (read part) (cut part) true 0
          (if paths.isEmpty then ["-"] else paths)
  body { usage with arguments := withCounts usage.arguments }

/-- Passes on the start of files. -/
def head : Body τ :=
  showing '-' (fun part descriptor => readEnough part.isRead descriptor pieceLimit "") Part.atStart

/-- Passes on the end of files. -/
def tail : Body τ := showing '+' (fun _ descriptor => readAll descriptor) Part.atEnd

end Ends

section Turning

/-- A program that passes on changed contents of files. -/
def changing (change : String → String) : Body τ :=
  reading "" "" [] false 1 fun arguments usage => do
    let (contents, complete) ← gather usage plainly (operands arguments)
    contents.forM fun (_, text) => print (change text)
    return if complete then 0 else 1

/-- Passes on lines in reverse order. -/
def tac : Body τ := changing fun text => String.join (wholeLines text).reverse

/-- Passes on lines with their characters in reverse order. -/
def rev : Body τ := changing fun text =>
  let turned := Text.joined "\n" ((linesOf text).map fun line =>
    String.ofList line.toList.reverse)
  if text.endsWith "\n" then turned ++ "\n" else turned

end Turning

section Counting

/-- How many lines, words and bytes a text has, and how long its longest line is. -/
structure Counts where
  lines : Nat
  words : Nat
  bytes : Nat
  longest : Nat

/-- The counts of a text. -/
def Counts.ofText (text : String) : Counts :=
  let isSpace (char : Char) : Bool := char == ' ' || ('\t' ≤ char && char ≤ '\r')
  let words := (Text.pieces isSpace text.toList).countP (!·.isEmpty)
  ⟨text.toList.countP (· == '\n'), words, text.length,
    ((linesOf text).map String.length).foldl max 0⟩

/-- The counts of two texts. -/
def Counts.add (one other : Counts) : Counts :=
  ⟨one.lines + other.lines, one.words + other.words, one.bytes + other.bytes,
    max one.longest other.longest⟩

/-- The counts that letters ask for. -/
def Counts.chosen (counts : Counts) (wanted : Char → Bool) : List Nat :=
  let all := [('l', counts.lines), ('w', counts.words), ('m', counts.bytes), ('c', counts.bytes),
    ('L', counts.longest)]
  (all.filter fun entry => wanted entry.1).map (·.2)

/-- The size of a file, if it is one. -/
def fileSize? (path : String) : Activity τ (Option Nat) := do
  match ← Activity.call (.view (if path = "-" then "/dev/stdin" else path)) with
  | .ok (.file size _) => return some size
  | _ => return none

/-- Counts lines, words and bytes. -/
def wc : Body τ :=
  reading "lwcmL" "" [("lines", 'l'), ("words", 'w'), ("bytes", 'c'), ("chars", 'm')] false 1
    fun arguments usage => do
      let chosen := arguments.any fun argument => argument matches .letter _ _
      let wanted (letter : Char) : Bool :=
        if chosen then hasLetter letter arguments else ['l', 'w', 'c'].contains letter
      let paths := operands arguments
      let sources := if paths.isEmpty then ["-"] else paths
      let sizes ← sources.mapM fileSize?
      let counted := (Counts.ofText "").chosen wanted
      let total := (sizes.filterMap id).foldl (· + ·) 0
      let width :=
        if counted.length = 1 && sources.length = 1 then 1
        else max (if sizes.all Option.isSome then 1 else 7) (toString total).length
      let present (counts : Counts) (name : String) : Activity τ Unit :=
        print (Text.joined " " ((counts.chosen wanted).map fun (count : Nat) =>
          let digits := toString count
          String.ofList (List.replicate (width - digits.length) ' ') ++ digits) ++
          (if name.isEmpty then "" else " " ++ name) ++ "\n")
      let results ← sources.mapM fun path => do
        match ← readFile path with
        | .ok text =>
          let counts := Counts.ofText text
          present counts (if paths.isEmpty then "" else path)
          return some counts
        | .error error =>
          usage.complain (plainly path error)
          if error.kind = .isADirectory then present (Counts.ofText "") path
          return none
      if sources.length > 1 then
        present ((results.filterMap id).foldl Counts.add (Counts.ofText "")) "total"
      return if results.all Option.isSome then 0 else 1

end Counting

end TrainingLauncher.Rehearsal.Tool
