/-
What the words of a script stand for. The parts of a word become pieces: characters that keep
whether they were quoted, and borders between words. Pieces that may be split make words at the
separators; a word with a pattern in it makes the names of the files that it matches.
-/

import TrainingLauncher.Rehearsal.Shell.Arithmetic
import TrainingLauncher.Rehearsal.Shell.Grammar
import TrainingLauncher.Rehearsal.Shell.Pattern
import TrainingLauncher.Rehearsal.Shell.State

namespace TrainingLauncher.Rehearsal.Shell

/-- A piece of what a word stands for. -/
inductive Piece where
  /-- A character, which may be a separator if it `splits`. -/
  | glyph (glyph : Glyph) (splits : Bool)
  /-- There is a word here, even if there is no character of it. -/
  | mark
  /-- A word ends here; where there can be only one word, a separator stands here. -/
  | border (separator : String)
  deriving Repr

section Pieces

/-- The pieces of a text. -/
def textPieces (quoted splits : Bool) (text : String) : List Piece :=
  if quoted && text.isEmpty then [.mark]
  else text.toList.map fun char => .glyph ⟨char, quoted⟩ (splits && !quoted)

/-- The characters of pieces that make one word. -/
def pieceGlyphs (pieces : List Piece) : List Glyph :=
  pieces.flatMap fun piece =>
    match piece with
    | .glyph glyph _ => [glyph]
    | .mark => []
    | .border separator => separator.toList.map fun char => ⟨char, true⟩

/-- The text of pieces that make one word. -/
def pieceText (pieces : List Piece) : String := glyphText (pieceGlyphs pieces)

/-- What stands before the place where a word is being made. -/
inductive Gap where
  | nothing
  /-- A blank that has ended a word. -/
  | blank
  /-- A separator that is no blank. -/
  | separator
  deriving DecidableEq

/-- The words that pieces make. A separator that is no blank ends a word even if it is empty; blanks
around it do not count. -/
def fields (separators : String) (current : Option (List Glyph)) (gap : Gap) :
    List Piece → List (List Glyph)
  | [] => current.toList.map List.reverse
  | .mark :: rest => fields separators (some (current.getD [])) gap rest
  | .border _ :: rest => current.toList.map List.reverse ++ fields separators none .nothing rest
  | .glyph glyph splits :: rest =>
    if splits && separators.contains glyph.char then
      if [' ', '\t', '\n'].contains glyph.char then
        match current with
        | some word => word.reverse :: fields separators none .blank rest
        | none => fields separators none gap rest
      else
        match current, gap with
        | some word, _ => word.reverse :: fields separators none .separator rest
        | none, .blank => fields separators none .separator rest
        | none, _ => [] :: fields separators none .separator rest
    else fields separators (some (glyph :: current.getD [])) .nothing rest

end Pieces

section Parameters

/-- The letters of the options that are on. -/
def Options.letters (options : Options) : String :=
  let letter (on : Bool) (char : Char) : List Char := if on then [char] else []
  String.ofList (letter options.strict 'u' ++ letter options.exporting 'a' ++
    letter options.cautious 'C' ++ letter options.echoing 'v' ++ letter options.traced 'x' ++
    letter options.idle 'n' ++ letter options.literal 'f' ++ letter options.careful 'e')

/-- The value of a parameter. -/
def State.parameter? (state : State) (name : String) : Option String :=
  match name with
  | "$" => some (toString state.pid)
  | "?" => some (toString state.status)
  | "#" => some (toString state.arguments.length)
  | "!" => state.beside.map toString
  | "-" => some state.options.letters
  | "0" => some state.name
  | "*" | "@" =>
    if state.arguments.isEmpty then none else some (Text.joined " " state.arguments)
  | _ =>
    match name.toNat? with
    | some position => state.arguments[position - 1]?
    | none => state.value? name

/-- The value of a parameter that is needed; a strict shell ends if there is none. -/
def neededValue (name : String) : Conduct String := do
  let state ← get
  match state.parameter? name with
  | some value => return value
  | none =>
    if state.options.strict && name != "*" && name != "@" then
      refuse (name ++ ": parameter not set")
    else return ""

/-- The text between the arguments where they make one word. -/
def argumentSeparator : Conduct String := return ((← separators).take 1).toString

/-- The pieces of the arguments. -/
def argumentPieces (quoted : Bool) (name : String) : Conduct (List Piece) := do
  let arguments := (← get).arguments
  let separator ← if name = "*" then argumentSeparator else pure " "
  if quoted && name = "*" then return textPieces true false (Text.joined separator arguments)
  else
    return (arguments.map fun argument =>
      let pieces := textPieces quoted true argument
      if quoted && !argument.isEmpty then .mark :: pieces else pieces).intersperse
        [.border separator] |>.flatten

/-- Reads from a descriptor up to the end, at most `bound` times. -/
def readEverything (descriptor : Nat) : (bound : Nat) → ByteArray → Conduct ByteArray
  | 0, bytes => return bytes
  | bound + 1, bytes => do
    match ← ask (.read descriptor 65536) with
    | .ok more =>
      if more.isEmpty then return bytes else readEverything descriptor bound (bytes ++ more)
    | .error _ => return bytes

/-- What a script writes when a shell of its own carries it out, without the line breaks at the
end. -/
def captured (script : Script) : Conduct String := do
  let (start, finish) ← ask .pipe
  let pid ← ask (.fork (.script (← get) script ⟨[.closed start, .moved finish 1], false, false⟩))
  ask (.close finish)
  let bytes ← readEverything start endless .empty
  ask (.close start)
  let status ← awaitProcess pid
  modify ({ · with substituted := status })
  let chars := (Text.octets bytes).toList.filter (· != '\x00')
  return String.ofList (chars.reverse.dropWhile (· == '\n')).reverse

/-- The value of an expression. -/
def arithmeticValue (text : String) : Conduct Int := do
  let state ← get
  let explained (why : String) : Conduct Int :=
    refuse ("arithmetic expression: " ++ why ++ ": \"" ++ text ++ "\"")
  match (Expression.ofText text).bind fun expression => expression.evaluate state.value? [] with
  | .ok (value, assigned) =>
    for (name, value) in assigned.reverse do
      assign name (toString value) false
    return value
  | .error (.malformed expected) => explained expected
  | .error .divisionByZero => explained "division by zero"
  | .error (.noNumber word) => refuse ("Illegal number: " ++ word)

/-- The pieces of a part, with parts inside of each other at most `bound` deep. Text that is not
quoted may be split only inside of braces. -/
def partPieces : (bound : Nat) → (inBraces : Bool) → Part → Conduct (List Piece)
  | _, inBraces, .text quoted chars => return textPieces quoted inBraces chars
  | _, _, .output quoted script => return textPieces quoted true (← captured script)
  | 0, _, _ => return []
  | bound + 1, _, .arithmetic quoted expression => do
    let pieces ← expression.mapM (partPieces bound true)
    let value ← arithmeticValue (pieceText pieces.flatten)
    return textPieces quoted true (toString value)
  | bound + 1, _, .parameter quoted name variation => do
    let state ← get
    let value := state.parameter? name
    let isThere (evenEmpty : Bool) : Bool :=
      match value with
      | some value => !(evenEmpty && value.isEmpty)
      | none => false
    let wordPieces (word : ScriptWord) : Conduct (List Piece) := do
      let pieces := (← word.mapM (partPieces bound true)).flatten
      return if quoted then .mark :: pieces else pieces
    let valuePieces : Conduct (List Piece) :=
      if name = "*" || name = "@" then argumentPieces quoted name
      else return textPieces quoted true (← neededValue name)
    match variation with
    | .plain => valuePieces
    | .size => return textPieces quoted true (toString (← neededValue name).length)
    | .standIn evenEmpty word => if isThere evenEmpty then valuePieces else wordPieces word
    | .kept evenEmpty word =>
      if isThere evenEmpty then valuePieces
      else
        let text := pieceText (← wordPieces word)
        if !isName name then refuse (name ++ ": bad variable name")
        assign name text false
        return textPieces quoted true text
    | .alternative evenEmpty word =>
      if isThere evenEmpty then wordPieces word else return textPieces quoted true ""
    | .required evenEmpty word =>
      if isThere evenEmpty then valuePieces
      else
        let text := pieceText (← wordPieces word)
        let reason := if evenEmpty then "parameter not set or null" else "parameter not set"
        refuse (name ++ ": " ++ if text.isEmpty then reason else text)
    | .trimmed atEnd longest word =>
      let pattern := PatternPiece.ofGlyphs (pieceGlyphs (← wordPieces word))
      return textPieces quoted true (trimmedBy pattern atEnd longest (← neededValue name))
    | .senseless => refuse "Bad substitution"

/-- How deep parts stand inside of each other at most. -/
def wordDepth : Nat := 1000

/-- The pieces of a word. -/
def wordPieces (word : ScriptWord) : Conduct (List Piece) :=
  return (← word.mapM (partPieces wordDepth false)).flatten

end Parameters

section Homes

/-- The directory that a tilde and a name stand for. -/
def home? (state : State) (name : String) : Option String :=
  if name.isEmpty then state.value? "HOME" else if name = "root" then some "/root" else none

/-- Replaces a tilde at the start of a text. -/
def withHome (state : State) (isWhole : Bool) (chars : List Char) : List Part :=
  let literal : List Part := [.text false (String.ofList chars)]
  match chars with
  | '~' :: rest =>
    let name := rest.takeWhile fun char => char != '/' && char != ':'
    let after := rest.drop name.length
    if after.isEmpty && !isWhole then literal
    else
      match home? state (String.ofList name) with
      | some home => [.text true home, .text false (String.ofList after)]
      | none => literal
  | _ => literal

/-- Replaces the tilde at the start of a word. -/
def atHome (state : State) : ScriptWord → ScriptWord
  | .text false chars :: rest => withHome state rest.isEmpty chars.toList ++ rest
  | word => word

/-- Replaces the tildes at the start of the paths of a value. -/
def pathsAtHome (state : State) : ScriptWord → ScriptWord
  | [] => []
  | .text false chars :: rest =>
    let paths := Text.pieces (· == ':') chars.toList
    let last := paths.length - 1
    let replaced := paths.zipIdx.map fun (path, index) =>
      withHome state (index < last || rest.isEmpty) path
    (replaced.intersperse [.text false ":"]).flatten ++ rest
  | word => word

end Homes

section Files

/-- The field has a pattern in it that may match something else than itself. -/
def hasPattern (field : List Glyph) : Bool :=
  field.any (fun glyph => !glyph.quoted && ['*', '?', '['].contains glyph.char) &&
    !(PatternPiece.ofGlyphs field).all (·.isExact)

/-- The names of paths between their slashes. -/
def pathParts : List Glyph → List (List Glyph)
  | [] => [[]]
  | glyph :: rest =>
    if glyph.char = '/' then [] :: pathParts rest
    else
      match pathParts rest with
      | [] => [[glyph]]
      | first :: others => (glyph :: first) :: others

/-- The names in a directory that a pattern matches. Names that start with a dot are matched only by
patterns that do. -/
def namesIn (directory : String) (pattern : List Glyph) : Conduct (List String) := do
  match ← ask (.view (if directory.isEmpty then "." else directory)) with
  | .ok (.directory names) =>
    let dotted := pattern.head?.any fun glyph => glyph.char = '.'
    let pieces := PatternPiece.ofGlyphs pattern
    return names.filter fun name =>
      (dotted || !name.startsWith ".") && patternMatches pieces name.toList
  | _ => return []

/-- The paths that start with one of some paths and go on as patterns tell. -/
def pathsAlong (starts : List String) : List (List Glyph) → Conduct (List String)
  | [] => return starts
  | part :: rest => do
    let isLast := rest.isEmpty
    let longer ← starts.mapM fun start => do
      if hasPattern part then return (← namesIn start part).map (start ++ ·)
      else
        let path := start ++ glyphText part
        if isLast && !part.isEmpty then
          match ← ask (.view path) with
          | .ok _ => return [path]
          | .error _ => return []
        else return [path]
    pathsAlong (longer.flatten.map fun path => if isLast then path else path ++ "/") rest

/-- The words that a field becomes: the paths of the files that it matches, or itself. -/
def matchedPaths (field : List Glyph) : Conduct (List String) := do
  if (← get).options.literal || !hasPattern field then return [glyphText field]
  let paths ← pathsAlong [""] (pathParts field)
  let sorted := paths.mergeSort fun one other => !(other < one)
  return if sorted.isEmpty then [glyphText field] else sorted

end Files

section Words

/-- The words that a word of a script becomes. -/
def expandWord (word : ScriptWord) : Conduct (List String) := do
  let pieces ← wordPieces (atHome (← get) word)
  let words ← (fields (← separators) none .nothing pieces).mapM matchedPaths
  return words.flatten

/-- The words that words of a script become. -/
def expandAll (words : List ScriptWord) : Conduct (List String) :=
  return (← words.mapM expandWord).flatten

/-- The glyphs of a word that is not split. -/
def expandWhole (word : ScriptWord) : Conduct (List Glyph) := do
  return pieceGlyphs (← wordPieces (atHome (← get) word))

/-- The text of a word that is not split. -/
def expandText (word : ScriptWord) : Conduct String := return glyphText (← expandWhole word)

/-- The value that a variable is set to. -/
def expandValue (word : ScriptWord) : Conduct String := do
  return pieceText (← wordPieces (pathsAtHome (← get) word))

end Words

end TrainingLauncher.Rehearsal.Shell
