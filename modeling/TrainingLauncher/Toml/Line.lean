/-
What stands between the parts of a TOML document: spaces, line breaks and comments.
-/

namespace TrainingLauncher.Toml

/-- A space or a tab. -/
def isSpace (char : Char) : Bool := char == ' ' || char == '\t'

/-- A character that may stand in a comment or a quotation as it is: no control character other than
a tab. -/
def isPlain (char : Char) : Bool := char == '\t' || (' ' ≤ char && char != '\x7f')

/-- What follows spaces and tabs. -/
def skipSpaces (source : List Char) : List Char := source.dropWhile isSpace

/-- What follows a line break. -/
def lineBreak? : List Char → Option (List Char)
  | '\n' :: rest => some rest
  | '\r' :: '\n' :: rest => some rest
  | _ => none

/-- What follows the rest of a line that holds nothing but spaces and a comment. The last line of a
document needs no line break. -/
def endOfLine (source : List Char) : Option (List Char) :=
  let shown :=
    match skipSpaces source with
    | '#' :: comment => comment.dropWhile isPlain
    | other => other
  if shown.isEmpty then some [] else lineBreak? shown

/-- What follows spaces, line breaks and comments; a comment ends with a line break. -/
def skipLines (inComment : Bool) : List Char → Option (List Char)
  | [] => if inComment then none else some []
  | char :: rest =>
    if char = '\n' then skipLines false rest
    else if char = '\r' then
      match rest with
      | '\n' :: rest => skipLines false rest
      | _ => none
    else if inComment then
      if isPlain char then skipLines true rest else none
    else if isSpace char then skipLines false rest
    else if char = '#' then skipLines true rest
    else some (char :: rest)

end TrainingLauncher.Toml
