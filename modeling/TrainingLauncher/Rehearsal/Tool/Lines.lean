/-
Programs that take lines apart, put them in order, or exchange characters.
-/

import TrainingLauncher.Rehearsal.Shell.Pattern
import TrainingLauncher.Rehearsal.Tool.Printing
import TrainingLauncher.Rehearsal.Tool.Streams

namespace TrainingLauncher.Rehearsal.Tool

section Sorting

/-- A number with places after the point, as a whole number and how many places it has. -/
structure Scaled where
  value : Int
  places : Nat

/-- The number at the start of a text; zero if there is none. -/
def Scaled.ofText (text : String) : Scaled :=
  let source := text.toList.dropWhile fun char => char == ' ' || char == '\t'
  let (negative, source) :=
    match source with
    | '-' :: rest => (true, rest)
    | rest => (false, rest)
  let whole := source.takeWhile Char.isDigit
  let places :=
    match source.drop whole.length with
    | '.' :: rest => rest.takeWhile Char.isDigit
    | _ => []
  let value : Int := (Shell.digits 10 0 (whole ++ places)).1
  ⟨if negative then -value else value, places.length⟩

/-- A number as a whole number of the smallest of so many places. -/
def Scaled.scaledTo (number : Scaled) (places : Nat) : Int :=
  number.value * (Nat.pow 10 (places - number.places) : Int)

/-- Compares two numbers. -/
def Scaled.compare (one other : Scaled) : Ordering :=
  let places := max one.places other.places
  Ord.compare (one.scaledTo places) (other.scaledTo places)

/-- How lines, or parts of them, are compared. -/
structure SortRule where
  numeric : Bool
  turned : Bool
  folded : Bool
  blanks : Bool

/-- The rule that letters ask for. -/
def SortRule.ofLetters (has : Char → Bool) : SortRule := ⟨has 'n', has 'r', has 'f', has 'b'⟩

/-- Compares two texts. -/
def SortRule.compare (rule : SortRule) (one other : String) : Ordering :=
  let plain (text : String) : String :=
    let chars := text.toList
    let chars :=
      if rule.blanks then chars.dropWhile fun char => char == ' ' || char == '\t' else chars
    String.ofList (if rule.folded then chars.map Char.toUpper else chars)
  let found :=
    if rule.numeric then (Scaled.ofText one).compare (Scaled.ofText other)
    else Ord.compare (plain one) (plain other)
  if rule.turned then found.swap else found

/-- A part of lines by which they are compared: from a field and a character on, up to others. -/
structure SortKey where
  field : Nat
  char : Nat
  /-- The last field, and its last character, which is zero if it is the last one there is. -/
  last : Option (Nat × Nat)
  rule : SortRule

/-- Reads the place of a key: a field, a character, and letters. -/
def readPlace (standard : Nat) (source : List Char) : Nat × Nat × List Char :=
  let (field, rest) := Shell.digits 10 0 source
  match rest with
  | '.' :: rest =>
    let (char, rest) := Shell.digits 10 0 rest
    (field, char, rest)
  | rest => (field, standard, rest)

/-- The key that a word describes. -/
def SortKey.ofText (whole : SortRule) (text : String) : SortKey :=
  let (field, char, rest) := readPlace 1 text.toList
  let letters := rest.takeWhile (· != ',')
  let (last, others) :=
    match rest.drop letters.length with
    | ',' :: rest =>
      let (field, char, rest) := readPlace 0 rest
      (some (field, char), rest)
    | _ => (none, [])
  let letters := letters ++ others
  ⟨field, char, last, if letters.isEmpty then whole else .ofLetters letters.contains⟩

/-- The fields of a line, with the blanks before them or between separators. -/
def fieldsOf (separator : Option Char) (line : String) : List (List Char) :=
  match separator with
  | some separator => Text.pieces (· == separator) line.toList
  | none => blankFields line.length line.toList
where
  /-- Fields that start with blanks, at most `bound`. -/
  blankFields : (bound : Nat) → List Char → List (List Char)
    | 0, _ | _, [] => []
    | bound + 1, source =>
      let isBlank (char : Char) : Bool := char == ' ' || char == '\t'
      let blanks := source.takeWhile isBlank
      let word := (source.drop blanks.length).takeWhile (!isBlank ·)
      (blanks ++ word) :: blankFields bound (source.drop (blanks.length + word.length))

/-- The part of a line that a key asks for. -/
def SortKey.part (key : SortKey) (separator : Option Char) (line : String) : String :=
  let fields := fieldsOf separator line
  let joint := match separator with
    | some separator => [separator]
    | none => []
  let upTo (field char : Nat) : Nat :=
    let before := ((fields.take (field - 1)).map fun field => field.length + joint.length)
    before.foldl (· + ·) 0 + char
  let start := upTo key.field (key.char - 1)
  let finish :=
    match key.last with
    | none => line.length
    | some (field, 0) => upTo field ((fields.getD (field - 1) []).length)
    | some (field, char) => upTo field char
  String.ofList ((line.toList.take finish).drop start)

/-- Compares two lines by keys, the first one first. -/
def compareByKeys (separator : Option Char) (keys : List SortKey) (one other : String) : Ordering :=
  keys.foldl (fun found key =>
    found.then (key.rule.compare (key.part separator one) (key.part separator other))) .eq

/-- Keeps the first of lines that follow each other and do not differ. -/
def withoutRepeats (same : String → String → Bool) : List String → List String
  | [] => []
  | [line] => [line]
  | line :: next :: rest =>
    let others := withoutRepeats same (next :: rest)
    if same line next then line :: others.tail else line :: others

/-- Sorts lines. -/
def sort : Body τ :=
  reading "nrubfscz" "kto" [("numeric-sort", 'n'), ("reverse", 'r'), ("unique", 'u'), ("key", 'k'),
      ("field-separator", 't'), ("ignore-case", 'f'), ("output", 'o')] false 2
      fun arguments usage => do
    let rule := SortRule.ofLetters fun letter => hasLetter letter arguments
    let separator := (valueOf? 't' arguments).bind (·.toList.head?)
    let keys := arguments.filterMap fun argument =>
      match argument with
      | .letter 'k' (some text) => some (SortKey.ofText rule text)
      | _ => none
    let byKeys (one other : String) : Ordering :=
      if keys.isEmpty then rule.compare one other else compareByKeys separator keys one other
    let unique := hasLetter 'u' arguments
    let whole (one other : String) : Ordering :=
      if unique || hasLetter 's' arguments then .eq
      else { rule with numeric := false, folded := false, blanks := false }.compare one other
    let (contents, complete) ← gather usage
      (fun path error => "cannot read: " ++ plainly path error) (operands arguments)
    let lines := contents.flatMap fun (_, text) => linesOf text
    if !complete then return 2
    else if hasLetter 'c' arguments then
      let disorder? := (lines.zip lines.tail).findIdx? fun (one, next) =>
        let found := (byKeys one next).then (whole one next)
        found == .gt || (unique && found == .eq)
      match disorder? with
      | some index =>
        let name := (contents.head?.map (·.1)).getD "-"
        usage.refuse 1 (name ++ ":" ++ toString (index + 2) ++ ": disorder: " ++
          lines.getD (index + 1) "")
      | none => return 0
    else
      let sorted := lines.mergeSort fun one other =>
        (byKeys one other).then (whole one other) != .gt
      let kept :=
        if unique then withoutRepeats (fun one other => byKeys one other == .eq) sorted else sorted
      match valueOf? 'o' arguments with
      | none =>
        print (unlines kept)
        return 0
      | some path =>
        match ← Activity.call (.open path .replacing) with
        | .ok descriptor =>
          let _ ← writeTo descriptor (unlines kept)
          return 0
        | .error error => usage.refuse 2 ("open failed: " ++ plainly path error)

/-- Lines that follow each other and do not differ, with how many there are. -/
def runsOf (same : String → String → Bool) : List String → List (String × Nat)
  | [] => []
  | line :: rest =>
    match runsOf same rest with
    | (next, count) :: others =>
      if same line next then (line, count + 1) :: others else (line, 1) :: (next, count) :: others
    | [] => [(line, 1)]

/-- Shows lines once that follow each other and do not differ. -/
def uniq : Body τ :=
  reading "cdui" "" [("count", 'c'), ("repeated", 'd'), ("unique", 'u'), ("ignore-case", 'i')]
    false 1 fun arguments usage => do
      let (contents, complete) ← gather usage plainly ((operands arguments).take 1)
      let folded (line : String) : List Char :=
        if hasLetter 'i' arguments then line.toList.map Char.toLower else line.toList
      let lines := contents.flatMap fun (_, text) => linesOf text
      let runs := runsOf (fun one other => folded one == folded other) lines
      let chosen := runs.filter fun (_, count) =>
        (!hasLetter 'd' arguments || count > 1) && (!hasLetter 'u' arguments || count == 1)
      let shown := chosen.map fun (line, count) =>
        if hasLetter 'c' arguments then
          let digits := toString count
          String.ofList (List.replicate (7 - digits.length) ' ') ++ digits ++ " " ++ line
        else line
      match (operands arguments)[1]? with
      | some path =>
        match ← Activity.call (.open path .replacing) with
        | .ok descriptor =>
          let _ ← writeTo descriptor (unlines shown)
        | .error error => usage.complain (plainly path error)
      | none => print (unlines shown)
      return if complete then 0 else 1

end Sorting

section Cutting

/-- Places in a line: from one up to another, which may be the end. -/
structure Stretch where
  first : Nat
  last : Option Nat

/-- A place lies in a stretch. -/
def Stretch.holds (stretch : Stretch) (place : Nat) : Bool :=
  stretch.first ≤ place && stretch.last.all (place ≤ ·)

/-- The stretches that a text lists. -/
def stretches (kind text : String) : Except String (List Stretch) :=
  (text.splitOn ",").mapM fun word => do
    let number (digits : String) : Except String Nat := do
      match natural? digits with
      | some 0 => throw (if kind = "field" then "fields are numbered from 1"
          else "byte/character positions are numbered from 1")
      | some value => return value
      | none => throw ("invalid " ++ kind ++ " value '" ++ word ++ "'")
    match word.splitOn "-" with
    | [single] =>
      let place ← number single
      return ⟨place, some place⟩
    | ["", ""] => throw "invalid range with no endpoint: -"
    | ["", last] => return ⟨1, some (← number last)⟩
    | [first, ""] => return ⟨← number first, none⟩
    | [first, last] =>
      let stretch : Stretch := ⟨← number first, some (← number last)⟩
      if stretch.last.any (· < stretch.first) then throw "invalid decreasing range"
      return stretch
    | _ => throw ("invalid " ++ kind ++ " range")

/-- The elements of a list whose places, from one on, are asked for. -/
def chosenPlaces (wanted : Nat → Bool) (elements : List α) : List α :=
  (elements.zipIdx.filter fun (_, index) => wanted (index + 1)).map (·.1)

/-- Passes on parts of lines. -/
def cut : Body τ :=
  reading "sn" "bcfdO" [("fields", 'f'), ("delimiter", 'd'), ("characters", 'c'), ("bytes", 'b'),
    ("only-delimited", 's'), ("output-delimiter", 'O')] false 1 fun arguments usage => do
    let fieldList := valueOf? 'f' arguments
    let charList := (valueOf? 'c' arguments).orElse fun _ => valueOf? 'b' arguments
    let delimiter := (valueOf? 'd' arguments).getD "\t"
    let kind := if fieldList.isSome then "field" else "byte/character"
    if delimiter.length > 1 then
      return ← usage.refuseWithHelp 1 "the delimiter must be a single character"
    match fieldList.orElse fun _ => charList with
    | none =>
      usage.refuseWithHelp 1 "you must specify a list of bytes, characters, or fields"
    | some text =>
      match stretches kind text with
      | .error complaint => usage.refuseWithHelp 1 complaint
      | .ok listed =>
        let wanted (place : Nat) : Bool := listed.any (·.holds place)
        let separator := delimiter.toList.headD '\x00'
        let shown (line : String) : Option String :=
          if fieldList.isNone then some (String.ofList (chosenPlaces wanted line.toList))
          else if !line.contains separator then
            if hasLetter 's' arguments then none else some line
          else
            let pieces := (Text.pieces (· == separator) line.toList).map String.ofList
            some (Text.joined ((valueOf? 'O' arguments).getD separator.toString)
              (chosenPlaces wanted pieces))
        let (contents, complete) ← gather usage plainly (operands arguments)
        contents.forM fun (_, text) => print (unlines ((linesOf text).filterMap shown))
        return if complete then 0 else 1

end Cutting

section Exchanging

/-- The characters of a class, in their order. -/
def classChars? (name : String) : Option (List Char) :=
  let all := (List.range 256).map Char.ofNat
  if ["alpha", "digit", "alnum", "upper", "lower", "space", "blank", "punct", "print", "graph",
      "cntrl", "xdigit"].contains name then
    some (all.filter (Shell.isOfKind name))
  else none

/-- The characters that a set lists, read in at most `bound` pieces. -/
def listedChars : (bound : Nat) → List Char → Except String (List Char)
  | 0, _ | _, [] => return []
  | bound + 1, '[' :: ':' :: rest =>
    let name := String.ofList (rest.takeWhile (· != ':'))
    match classChars? name, rest.drop name.length with
    | some chars, ':' :: ']' :: after => return chars ++ (← listedChars bound after)
    | none, ':' :: ']' :: _ => throw ("invalid character class '" ++ name ++ "'")
    | _, _ => return '[' :: (← listedChars bound (':' :: rest))
  | bound + 1, source => do
    let single (source : List Char) : List Char × List Char :=
      match source with
      | '\\' :: rest =>
        let (shown, after) := escape .program rest
        let chars := shown.toList
        (if chars.length > 1 then chars.drop 1 else chars, after)
      | char :: rest => ([char], rest)
      | [] => ([], [])
    let (first, rest) := single source
    match rest with
    | '-' :: last :: after =>
      let (last, after) := single (last :: after)
      match first, last with
      | [low], [high] =>
        if high < low then
          throw ("range-endpoints of '" ++ String.ofList [low, '-', high] ++
            "' are in reverse collating sequence order")
        else
          let range := (List.range' low.toNat (high.toNat + 1 - low.toNat)).map Char.ofNat
          return range ++ (← listedChars bound after)
      | _, _ => return first ++ last ++ (← listedChars bound after)
    | rest => return first ++ (← listedChars bound rest)

/-- Leaves one of characters of a set that follow each other and do not differ. -/
def squeezed (set : List Char) : List Char → List Char
  | one :: next :: rest =>
    if one = next && set.contains one then squeezed set (next :: rest)
    else one :: squeezed set (next :: rest)
  | short => short

/-- Exchanges characters for others, leaves them out, or leaves one of those that repeat. -/
def tr : Body τ := reading "cCdst" ""
    [("delete", 'd'), ("squeeze-repeats", 's'), ("complement", 'c')] true 1
    fun arguments usage => do
  let sets := operands arguments
  let deletes := hasLetter 'd' arguments
  let squeezes := hasLetter 's' arguments
  let least := if deletes = squeezes then 2 else 1
  let most := if deletes && !squeezes then 1 else 2
  match sets.getLast?, sets[most]? with
  | none, _ => usage.refuseWithHelp 1 "missing operand"
  | _, some extra => usage.refuseWithHelp 1 ("extra operand '" ++ extra ++ "'")
  | some last, none =>
    if sets.length < least then
      usage.refuseWithHelp 1 ("missing operand after '" ++ last ++
        (if deletes then "'\nTwo strings must be given when both deleting and squeezing repeats."
          else "'\nTwo strings must be given when translating."))
    else
      match sets.mapM fun set => listedChars (set.length + 1) set.toList with
      | .error complaint => usage.refuse 1 complaint
      | .ok listed =>
        let complemented := hasLetter 'c' arguments || hasLetter 'C' arguments
        let first := listed.headD []
        let first :=
          if complemented then
            (((List.range 256).map Char.ofNat).filter fun char => !first.contains char)
          else first
        let second := listed.getD 1 []
        if !deletes && listed.length = 2 && second.isEmpty then
          usage.refuse 1 "when not truncating set1, string2 must be non-empty"
        else
          let text := (← readAll 0).toOption.getD ""
          let chars := if deletes then text.toList.filter (!first.contains ·) else text.toList
          let filled := second ++
            List.replicate (first.length - second.length) (second.getLast?.getD ' ')
          let pairs := if hasLetter 't' arguments then first.zip second else first.zip filled
          let pairs := pairs.reverse
          let chars :=
            if !deletes && listed.length = 2 then
              chars.map fun char => (pairs.lookup char).getD char
            else chars
          let squeezable := if listed.length = 2 then second else first
          print (String.ofList (if squeezes then squeezed squeezable chars else chars))
          return 0

end Exchanging

section Counting

/-- A number with a point that a word is. -/
def scaled? (word : String) : Option Scaled :=
  let chars := word.toList
  let digits := if chars.head? = some '-' || chars.head? = some '+' then chars.tail else chars
  let isPoint (char : Char) : Bool := char == '.'
  if (digits.filter (!isPoint ·)).all Char.isDigit && digits.any Char.isDigit &&
      digits.countP isPoint ≤ 1 then
    some (Scaled.ofText (String.ofList (if chars.head? = some '+' then digits else chars)))
  else none

/-- A number of the smallest of so many places, in digits. -/
def scaledDigits (places width : Nat) (value : Int) : String :=
  let digits := toString value.natAbs
  let digits := String.ofList (List.replicate (places + 1 - digits.length) '0') ++ digits
  let whole := (digits.dropEnd places).toString
  let shown := if places = 0 then digits else whole ++ "." ++ (digits.drop whole.length).toString
  let sign := if value < 0 then "-" else ""
  sign ++ String.ofList (List.replicate (width - sign.length - shown.length) '0') ++ shown

/-- How the numbers of a row are shown. -/
structure RowShape where
  separator : String
  aligned : Bool
  operands : List String

/-- Reads the arguments of a row of numbers, at most `bound`. -/
def RowShape.read (shape : RowShape) : (bound : Nat) → List String → RowShape
  | 0, _ | _, [] => shape
  | bound + 1, word :: rest =>
    match word.toList, rest with
    | ['-', 's'], value :: rest => { shape with separator := value }.read bound rest
    | '-' :: 's' :: value, _ => { shape with separator := String.ofList value }.read bound rest
    | ['-', 'w'], _ => { shape with aligned := true }.read bound rest
    | _, _ => { shape with operands := shape.operands ++ [word] }.read bound rest

/-- The numbers from one to another, a line each. -/
def seq : Body τ := fun usage => do
  let shape := RowShape.read ⟨"\n", false, []⟩ (usage.arguments.length + 1) usage.arguments
  let wrong? := shape.operands.find? fun word => (scaled? word).isNone
  match wrong?, shape.operands.filterMap scaled? with
  | some wrong, _ => usage.refuseWithHelp 1 ("invalid floating point argument: '" ++ wrong ++ "'")
  | none, [] => usage.refuseWithHelp 1 "missing operand"
  | none, _ :: _ :: _ :: _ :: _ =>
    usage.refuseWithHelp 1 ("extra operand '" ++ shape.operands.getD 3 "" ++ "'")
  | none, numbers =>
    let one : Scaled := ⟨1, 0⟩
    let (first, step, last) :=
      match numbers with
      | [first, step, last] => (first, step, last)
      | [first, last] => (first, one, last)
      | others => (one, one, others.headD one)
    if step.value = 0 then
      usage.refuseWithHelp 1
        ("invalid Zero increment value: '" ++ shape.operands.getD 1 "" ++ "'")
    else
      let places := max first.places step.places
      let fine := max places last.places
      let (start, stride, finish) :=
        (first.scaledTo fine, step.scaledTo fine, last.scaledTo fine)
      let count := if stride > 0 then (finish - start) / stride else (start - finish) / (-stride)
      let count := if (stride > 0) = (finish ≥ start) || finish = start then count.toNat + 1 else 0
      let values := (List.range count).map fun (index : Nat) =>
        (first.scaledTo places) + (index : Int) * (step.scaledTo places)
      let width :=
        if shape.aligned then
          (values.map fun value => (scaledDigits places 0 value).length).foldl max 0
        else 0
      if count = 0 then return 0
      else
        print (Text.joined shape.separator (values.map (scaledDigits places width)) ++ "\n")
        return 0

end Counting

end TrainingLauncher.Rehearsal.Tool
