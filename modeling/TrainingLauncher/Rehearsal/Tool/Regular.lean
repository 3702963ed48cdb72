/-
Regular expressions, in the basic and the extended way of writing them. A match starts as early as
it can and is then as long as it can be. Groups keep where they matched last.
-/

import TrainingLauncher.Rehearsal.Shell.Arithmetic
import TrainingLauncher.Rehearsal.Shell.Pattern

namespace TrainingLauncher.Rehearsal.Tool

open Shell (SetPart)

/-- A regular expression. -/
inductive Regular where
  | nothing
  | exactly (char : Char)
  | any
  | among (excluded : Bool) (parts : List SetPart)
  | group (number : Nat) (inside : Regular)
  | sequence (first second : Regular)
  | either (first second : Regular)
  /-- So many times, at most `most` if there is a limit. -/
  | repeated (inside : Regular) (least : Nat) (most : Option Nat)
  | atStart
  | atEnd
  /-- What a group has matched. -/
  | same (group : Nat)
  | wordBorder
  | wordStart
  | wordEnd

namespace Regular

section Reading

/-- How an expression is written. -/
inductive Style where
  | basic
  | extended
  deriving DecidableEq

/-- An expression that has been read, what is left, and how many groups there were before. -/
abbrev Reader := Nat → List Char → Except String (Regular × Nat × List Char)

/-- The sign at the start of a text, written in the way of a style: a character by itself, or after
a backslash. -/
def sign? (style : Style) (sign : Char) : List Char → Option (List Char)
  | '\\' :: char :: rest => if style = .basic && char = sign then some rest else none
  | char :: rest => if style = .extended && char = sign then some rest else none
  | [] => none

/-- Reads a set of characters. -/
def readSet (source : List Char) : Except String (Regular × List Char) :=
  let glyphs (chars : List Char) : List Shell.Glyph := chars.map fun char => ⟨char, false⟩
  let (excluded, inside) :=
    match source with
    | '^' :: rest => (true, rest)
    | rest => (false, rest)
  match Shell.PatternPiece.setParts (inside.length + 1) true (glyphs inside) with
  | some (parts, after) => .ok (.among excluded parts, after.map (·.char))
  | none => .error "Unmatched [, [^, [:, [., or [="

/-- Reads the limits of a repetition. -/
def readLimits (style : Style) (source : List Char) :
    Except String (Nat × Option Nat × List Char) :=
  let (least, rest) := Shell.digits 10 0 source
  let finish (most : Option Nat) (rest : List Char) :
      Except String (Nat × Option Nat × List Char) :=
    match sign? style '\x7d' rest with
    | some rest => .ok (least, most, rest)
    | none => .error "Unmatched \x7b or \\\x7b"
  match rest with
  | ',' :: rest =>
    let (most, after) := Shell.digits 10 0 rest
    finish (if after.length = rest.length then none else some most) after
  | rest => finish (some least) rest

/-- Reads the repetitions that follow an expression, at most `bound`. -/
def readRepeats (style : Style) : (bound : Nat) → Regular → List Char →
    Except String (Regular × List Char)
  | 0, inside, source => .ok (inside, source)
  | bound + 1, inside, source =>
    match source with
    | '*' :: rest => readRepeats style bound (.repeated inside 0 none) rest
    | source =>
      match sign? style '+' source, sign? style '?' source, sign? style '\x7b' source with
      | some rest, _, _ => readRepeats style bound (.repeated inside 1 none) rest
      | _, some rest, _ => readRepeats style bound (.repeated inside 0 (some 1)) rest
      | _, _, some rest => do
        let (least, most, rest) ← readLimits style rest
        readRepeats style bound (.repeated inside least most) rest
      | _, _, _ => .ok (inside, source)

/-- Reads a single expression, given how to read one between brackets. -/
def readSingle (style : Style) (whole : Reader) (isFirst : Bool) : Reader := fun groups source =>
  match sign? style '(' source with
  | some rest => do
    let (inside, count, rest) ← whole (groups + 1) rest
    match sign? style ')' rest with
    | some rest => return (.group (groups + 1) inside, count, rest)
    | none => throw "Unmatched ( or \\("
  | none =>
    match source with
    | '\\' :: char :: rest =>
      let found : Regular :=
        match char with
        | 'n' => .exactly '\n'
        | 't' => .exactly '\t'
        | 'b' => .wordBorder
        | '<' => .wordStart
        | '>' => .wordEnd
        | 'w' => .among false [.kind "alnum", .range '_' '_']
        | 'W' => .among true [.kind "alnum", .range '_' '_']
        | 's' => .among false [.kind "space"]
        | 'S' => .among true [.kind "space"]
        | char =>
          if '1' ≤ char && char ≤ '9' then .same (char.toNat - '0'.toNat) else .exactly char
      .ok (found, groups, rest)
    | ['\\'] => .error "Trailing backslash"
    | '.' :: rest => .ok (.any, groups, rest)
    | '[' :: rest => do
      let (set, rest) ← readSet rest
      return (set, groups, rest)
    | '^' :: rest =>
      .ok (if isFirst || style = .extended then .atStart else .exactly '^', groups, rest)
    | '$' :: rest =>
      let isLast := rest.isEmpty || (sign? style ')' rest).isSome || (sign? style '|' rest).isSome
      .ok (if isLast || style = .extended then .atEnd else .exactly '$', groups, rest)
    | char :: rest => .ok (.exactly char, groups, rest)
    | [] => .ok (.nothing, groups, [])

/-- Reads expressions that follow each other, at most `bound`. -/
def readSequence (style : Style) (whole : Reader) : (bound : Nat) → (isFirst : Bool) → Reader
  | 0, _, groups, source => .ok (.nothing, groups, source)
  | bound + 1, isFirst, groups, source =>
    if source.isEmpty || (sign? style '|' source).isSome ||
        ((sign? style ')' source).isSome && (style = .basic || groups > 0)) then
      .ok (.nothing, groups, source)
    else do
      let (single, count, rest) ← readSingle style whole isFirst groups source
      let (single, rest) ←
        match single with
        | .atStart => pure (single, rest)
        | single => readRepeats style rest.length single rest
      let stillFirst := isFirst && single matches .atStart
      let (others, count, rest) ← readSequence style whole bound stillFirst count rest
      return (.sequence single others, count, rest)

/-- Reads an expression with at most `bound` of them one inside the other. -/
def readWhole (style : Style) : (bound : Nat) → Reader
  | 0, groups, source => .ok (.nothing, groups, source)
  | bound + 1, groups, source => do
    let (first, count, rest) ←
      readSequence style (readWhole style bound) (source.length + 1) true groups source
    match sign? style '|' rest with
    | some rest =>
      let (second, count, rest) ← readWhole style bound count rest
      return (.either first second, count, rest)
    | none => return (first, count, rest)

/-- The expression that a text is. -/
def ofText (style : Style) (text : String) : Except String Regular := do
  let (whole, _, rest) ← readWhole style (text.length + 1) 0 text.toList
  if rest.isEmpty then return whole else throw "Unmatched ) or \\)"

/-- The expression that matches a text and nothing else. -/
def literally (text : String) : Regular :=
  text.toList.foldr (fun char rest => .sequence (.exactly char) rest) .nothing

end Reading

section Matching

/-- How far a match has come, and where groups have matched. -/
structure Progress where
  place : Nat
  groups : List (Nat × Nat × Nat)

/-- What is matched: characters, and whether letters of either case are the same. -/
structure Subject where
  chars : Array Char
  folded : Bool

/-- A character of a word. -/
def isWordChar (char : Char) : Bool := char.isAlphanum || char == '_'

/-- A character that is part of a word stands at a place. -/
def Subject.inWord (subject : Subject) (place : Nat) : Bool := subject.chars[place]?.any isWordChar

/-- A word starts or ends at a place. -/
def Subject.isBorder (subject : Subject) (place : Nat) : Bool × Bool :=
  let before := place > 0 && subject.inWord (place - 1)
  let after := subject.inWord place
  (!before && after, before && !after)

/-- Two characters are the same. -/
def Subject.same (subject : Subject) (one other : Char) : Bool :=
  one == other || (subject.folded && one.toLower == other.toLower)

/-- A set holds a character. -/
def Subject.holds (subject : Subject) (parts : List SetPart) (char : Char) : Bool :=
  parts.any fun part => part.holds char ||
    (subject.folded && (part.holds char.toLower || part.holds char.toUpper))

/-- Keeps one of several ways to come to a place. -/
def distinct : List Progress → List Progress → List Progress
  | kept, [] => kept.reverse
  | kept, progress :: rest =>
    if kept.any (·.place == progress.place) then distinct kept rest
    else distinct (progress :: kept) rest

/-- The ways to match from a place on, the longer ones of a repetition first; it is repeated at most
`bound` times without a limit. -/
def ways (subject : Subject) (bound : Nat) : Regular → Progress → List Progress
  | nothing, progress => [progress]
  | exactly char, progress =>
    step progress fun found => subject.same char found
  | any, progress => step progress fun _ => true
  | among excluded parts, progress =>
    step progress fun found => excluded != subject.holds parts found
  | group number inside, progress =>
    (ways subject bound inside progress).map fun after => { after with
      groups := (number, progress.place, after.place) :: after.groups.filter (·.1 != number) }
  | sequence first second, progress =>
    distinct [] ((ways subject bound first progress).flatMap (ways subject bound second))
  | either first second, progress =>
    distinct [] (ways subject bound first progress ++ ways subject bound second progress)
  | repeated inside least most, progress =>
    let once (progress : Progress) : List Progress := ways subject bound inside progress
    let must := (List.range least).foldl
      (fun reached _ => distinct [] (reached.flatMap once)) [progress]
    let free := match most with
      | some most => most - least
      | none => bound
    distinct [] (must.flatMap (again once free))
  | atStart, progress => if progress.place = 0 then [progress] else []
  | atEnd, progress => if progress.place = subject.chars.size then [progress] else []
  | .same number, progress =>
    match progress.groups.lookup number with
    | none => []
    | some (start, finish) =>
      let part := (subject.chars.extract start finish).toList
      let here := (subject.chars.extract progress.place
        (progress.place + part.length)).toList
      if part.length = here.length && (part.zip here).all fun (one, other) =>
          subject.same one other then
        [{ progress with place := progress.place + part.length }]
      else []
  | wordBorder, progress =>
    let (starts, ends) := subject.isBorder progress.place
    if starts || ends then [progress] else []
  | wordStart, progress => if (subject.isBorder progress.place).1 then [progress] else []
  | wordEnd, progress => if (subject.isBorder progress.place).2 then [progress] else []
where
  /-- One character more, if it is accepted. -/
  step (progress : Progress) (accepts : Char → Bool) : List Progress :=
    match subject.chars[progress.place]? with
    | some found => if accepts found then [{ progress with place := progress.place + 1 }] else []
    | none => []
  /-- The ways to repeat something, as long as it comes further, at most `bound` times. -/
  again (once : Progress → List Progress) : (bound : Nat) → Progress → List Progress
    | 0, progress => [progress]
    | bound + 1, progress =>
      let further := (once progress).filter (·.place > progress.place)
      distinct [] (further.flatMap (again once bound) ++ [progress])

/-- A match: where it starts and ends, and where the groups do. -/
structure Match where
  start : Nat
  finish : Nat
  groups : List (Nat × Nat × Nat)

/-- The longest match that starts at a place. -/
def matchAt? (regular : Regular) (subject : Subject) (start : Nat) : Option Match :=
  let found := ways subject (subject.chars.size + 1) regular ⟨start, []⟩
  (found.foldl (fun longest progress =>
    match longest with
    | some (best : Progress) => if best.place < progress.place then some progress else longest
    | none => some progress) none).map fun progress => ⟨start, progress.place, progress.groups⟩

/-- The first match from a place on. -/
def find? (regular : Regular) (subject : Subject) (start : Nat) : Option Match :=
  (List.range' start (subject.chars.size + 1 - start)).findSome? (regular.matchAt? subject)

end Matching

end Regular

end TrainingLauncher.Rehearsal.Tool
