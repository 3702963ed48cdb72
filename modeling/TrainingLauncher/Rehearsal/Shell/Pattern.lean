/-
Patterns of names: a star stands for any characters, a question mark for one, brackets for one out
of a set. A pattern matches a whole text. A character that is quoted stands for itself.
-/

import TrainingLauncher.Text.Blank

namespace TrainingLauncher.Rehearsal.Shell

/-- A character, and whether it stands for nothing but itself. -/
structure Glyph where
  char : Char
  quoted : Bool
  deriving DecidableEq, Repr

/-- The characters of glyphs. -/
def glyphText (glyphs : List Glyph) : String := String.ofList (glyphs.map (·.char))

/-- What a set of characters consists of. -/
inductive SetPart where
  | range (first last : Char)
  /-- The characters of a kind that has a name. -/
  | kind (name : String)
  deriving DecidableEq, Repr

/-- A character is of a kind. -/
def isOfKind (name : String) (char : Char) : Bool :=
  match name with
  | "alpha" => char.isAlpha
  | "digit" => char.isDigit
  | "alnum" => char.isAlphanum
  | "upper" => char.isUpper
  | "lower" => char.isLower
  | "space" => char == ' ' || ('\t' ≤ char && char ≤ '\r')
  | "blank" => char == ' ' || char == '\t'
  | "punct" => '!' ≤ char && char ≤ '~' && !char.isAlphanum
  | "print" => ' ' ≤ char && char ≤ '~'
  | "graph" => '!' ≤ char && char ≤ '~'
  | "cntrl" => char < ' ' || char == '\x7f'
  | "xdigit" => char.isDigit || ('a' ≤ char && char ≤ 'f') || ('A' ≤ char && char ≤ 'F')
  | _ => false

/-- A character is in a part of a set. -/
def SetPart.holds (char : Char) : SetPart → Bool
  | range first last => decide (first ≤ char) && decide (char ≤ last)
  | kind name => isOfKind name char

/-- A piece of a pattern. -/
inductive PatternPiece where
  /-- Any characters, even none. -/
  | run
  | single
  | exactly (char : Char)
  /-- One character that is in one of the parts, or in none of them. -/
  | among (excluded : Bool) (parts : List SetPart)
  deriving DecidableEq, Repr

namespace PatternPiece

/-- The glyph is a character that is not quoted. -/
def isSign (glyph : Glyph) (char : Char) : Bool := glyph.char == char && !glyph.quoted

/-- Reads the kind of characters that stands between colons. -/
def kindOf? : List Glyph → Option (String × List Glyph)
  | first :: second :: rest =>
    if isSign first '[' && isSign second ':' then
      let name := rest.takeWhile (·.char.isAlpha)
      match rest.drop name.length with
      | third :: fourth :: after =>
        if isSign third ':' && isSign fourth ']' then some (glyphText name, after) else none
      | _ => none
    else none
  | _ => none

/-- Reads the parts of a set up to the closing bracket, at most `bound`. The first character is
never the closing one. -/
def setParts : (bound : Nat) → (isFirst : Bool) → List Glyph → Option (List SetPart × List Glyph)
  | 0, _, _ | _, _, [] => none
  | bound + 1, isFirst, glyph :: rest =>
    let next (part : SetPart) (rest : List Glyph) : Option (List SetPart × List Glyph) := do
      let (parts, rest) ← setParts bound false rest
      return (part :: parts, rest)
    if isSign glyph ']' && !isFirst then some ([], rest)
    else
      match kindOf? (glyph :: rest) with
      | some (name, after) => next (.kind name) after
      | none =>
        match rest with
        | dash :: last :: after =>
          if isSign dash '-' && !isSign last ']' then next (.range glyph.char last.char) after
          else next (.range glyph.char glyph.char) rest
        | _ => next (.range glyph.char glyph.char) rest

/-- Reads what follows an opening bracket. -/
def bracketed (rest : List Glyph) : Option (PatternPiece × List Glyph) := do
  let excluded := rest.head?.any (isSign · '!')
  let inside := if excluded then rest.tail else rest
  let (parts, after) ← setParts (inside.length + 1) true inside
  return (.among excluded parts, after)

/-- The pieces of a pattern, at most `bound`. -/
def read : (bound : Nat) → List Glyph → List PatternPiece
  | 0, _ | _, [] => []
  | bound + 1, glyph :: rest =>
    if glyph.quoted then .exactly glyph.char :: read bound rest
    else
      match glyph.char, rest with
      | '*', _ => .run :: read bound rest
      | '?', _ => .single :: read bound rest
      | '\\', escaped :: rest => .exactly escaped.char :: read bound rest
      | '[', _ =>
        match bracketed rest with
        | some (piece, after) => piece :: read bound after
        | none => .exactly '[' :: read bound rest
      | char, _ => .exactly char :: read bound rest

/-- The pieces of a pattern. -/
def ofGlyphs (pattern : List Glyph) : List PatternPiece := read pattern.length pattern

/-- A piece that stands for one character stands for this one. -/
def accepts : PatternPiece → Char → Bool
  | run, _ => false
  | single, _ => true
  | exactly expected, char => char == expected
  | among excluded parts, char => excluded != parts.any (·.holds char)

/-- The piece stands for one character that is known. -/
def isExact : PatternPiece → Bool
  | exactly _ => true
  | _ => false

end PatternPiece

/-- A list and what is left of it after each of its elements. -/
def endings : List Char → List (List Char)
  | [] => [[]]
  | char :: rest => (char :: rest) :: endings rest

/-- Pieces match a whole text. -/
def patternMatches : List PatternPiece → List Char → Bool
  | [], text => text.isEmpty
  | .run :: pieces, text => (endings text).any (patternMatches pieces)
  | piece :: pieces, char :: text => piece.accepts char && patternMatches pieces text
  | _ :: _, [] => false

/-- The parts that a text can be cut into, the shortest first part first. -/
def cuts : List Char → List (List Char × List Char)
  | [] => [([], [])]
  | char :: rest => ([], char :: rest) :: (cuts rest).map fun (first, last) => (char :: first, last)

/-- A text without what a pattern matches at its start or end, as little or as much as it can. -/
def trimmedBy (pattern : List PatternPiece) (atEnd longest : Bool) (text : String) : String :=
  let candidates := if atEnd = longest then cuts text.toList else (cuts text.toList).reverse
  let found? := candidates.find? fun (first, last) =>
    patternMatches pattern (if atEnd then last else first)
  match found? with
  | some (first, last) => String.ofList (if atEnd then first else last)
  | none => text

end TrainingLauncher.Rehearsal.Shell
