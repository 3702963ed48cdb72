/-
Passing on the lines of files that fit a pattern.
-/

import TrainingLauncher.Rehearsal.Tool.Regular
import TrainingLauncher.Rehearsal.Tool.Streams

namespace TrainingLauncher.Rehearsal.Tool

/-- How lines are searched. -/
structure Search where
  patterns : List Regular
  folded : Bool
  turned : Bool
  /-- Only whole words, or whole lines, count. -/
  words : Bool
  lines : Bool

namespace Search

/-- A match is one that counts. -/
def counts (search : Search) (subject : Regular.Subject) (found : Regular.Match) : Bool :=
  (!search.lines || (found.start == 0 && found.finish == subject.chars.size)) &&
    (!search.words ||
      (!(found.start > 0 && subject.inWord (found.start - 1)) && !subject.inWord found.finish))

/-- The first match from a place on, the longest of those that start there. -/
def find? (search : Search) (subject : Regular.Subject) (start : Nat) : Option Regular.Match :=
  (List.range' start (subject.chars.size + 1 - start)).findSome? fun place =>
    (search.patterns.filterMap fun pattern =>
      (pattern.matchAt? subject place).filter (search.counts subject)).foldl
        (fun longest found =>
          match longest with
          | some (best : Regular.Match) =>
            if best.finish < found.finish then some found else longest
          | none => some found) none

/-- What is searched in a line. -/
def subject (search : Search) (line : String) : Regular.Subject :=
  ⟨line.toList.toArray, search.folded⟩

/-- A line is one of those that are wanted. -/
def accepts (search : Search) (line : String) : Bool :=
  search.turned != (search.find? (search.subject line) 0).isSome

/-- The parts of a line that match, at most `bound`. -/
def parts (search : Search) (subject : Regular.Subject) : (bound : Nat) → Nat → List String
  | 0, _ => []
  | bound + 1, start =>
    match search.find? subject start with
    | none => []
    | some found =>
      let part := String.ofList (subject.chars.extract found.start found.finish).toList
      let next := max found.finish (found.start + 1)
      let others := parts search subject bound next
      if part.isEmpty then others else part :: others

end Search

/-- How what was found is shown. -/
structure Findings where
  letters : Char → Bool
  named : Bool
  limit : Option Nat

/-- What is shown of a file: its text, and whether there is a line that is wanted. -/
def Findings.ofFile (findings : Findings) (search : Search) (path content : String) :
    String × Bool :=
  let name := if path = "-" then "(standard input)" else path
  let numbered := (linesOf content).zipIdx.filter fun (line, _) => search.accepts line
  let found := match findings.limit with
    | some limit => numbered.take limit
    | none => numbered
  let start (index : Nat) : String :=
    (if findings.named then name ++ ":" else "") ++
      (if findings.letters 'n' then toString (index + 1) ++ ":" else "")
  let shown :=
    if findings.letters 'q' then ""
    else if findings.letters 'l' then if found.isEmpty then "" else name ++ "\n"
    else if findings.letters 'L' then if found.isEmpty then name ++ "\n" else ""
    else if findings.letters 'c' then
      (if findings.named then name ++ ":" else "") ++ toString found.length ++ "\n"
    else if findings.letters 'o' then
      String.join (found.flatMap fun (line, index) =>
        if search.turned then []
        else (search.parts (search.subject line) (line.length + 2) 0).map fun part =>
          start index ++ part ++ "\n")
    else String.join (found.map fun (line, index) => start index ++ line ++ "\n")
  (shown, !found.isEmpty)

/-- How the program is used. -/
def searchUsage (name : String) : String :=
  "Usage: " ++ name ++ " [OPTION]... PATTERNS [FILE]...\nTry '" ++ name ++
    " --help' for more information."

/-- The expressions that texts are, a line each. -/
def patternsOf (letters : Char → Bool) (texts : List String) : Except String (List Regular) :=
  (texts.flatMap fun text => text.splitOn "\n").mapM fun line =>
    if letters 'F' then .ok (.literally line)
    else Regular.ofText (if letters 'E' then .extended else .basic) line

/-- Searches files. -/
def searchFiles (usage : Usage) (search : Search) (findings : Findings) :
    (matched failed : Bool) → List String → Activity τ Nat
  | matched, failed, [] =>
    return if failed && !(matched && findings.letters 'q') then 2 else if matched then 0 else 1
  | matched, failed, path :: rest => do
    match ← readFile path with
    | .error error =>
      if !findings.letters 's' then usage.complain (plainly path error)
      searchFiles usage search findings matched true rest
    | .ok content =>
      let (shown, found) := findings.ofFile search path content
      print shown
      if found && findings.letters 'q' then return 0
      searchFiles usage search findings (matched || found) failed rest

/-- Passes on the lines that fit a pattern, in a way of writing it that letters tell. -/
def grepWith (always : List Char) : Body τ := fun usage =>
  let body := reading "vcqniowxlLhHsEFGayzr" "em"
    [("invert-match", 'v'), ("count", 'c'), ("quiet", 'q'), ("silent", 'q'), ("line-number", 'n'),
      ("ignore-case", 'i'), ("only-matching", 'o'), ("word-regexp", 'w'), ("line-regexp", 'x'),
      ("files-with-matches", 'l'), ("no-filename", 'h'), ("no-messages", 's'),
      ("extended-regexp", 'E'), ("fixed-strings", 'F'), ("regexp", 'e'), ("max-count", 'm'),
      ("text", 'a')] false 2 fun arguments usage => do
      let letters (letter : Char) : Bool := always.contains letter || hasLetter letter arguments
      let given := arguments.filterMap fun argument =>
        match argument with
        | .letter 'e' value => value
        | _ => none
      let words := operands arguments
      let (texts, paths) := if given.isEmpty then (words.take 1, words.drop 1) else (given, words)
      if texts.isEmpty then
        complain (searchUsage usage.name)
        return 2
      match patternsOf letters texts with
      | .error complaint => usage.refuse 2 complaint
      | .ok patterns =>
        let search : Search :=
          ⟨patterns, letters 'i' || letters 'y', letters 'v', letters 'w', letters 'x'⟩
        let named := !letters 'h' && (letters 'H' || paths.length > 1)
        let findings : Findings := ⟨letters, named, (valueOf? 'm' arguments).bind natural?⟩
        searchFiles usage search findings false false (if paths.isEmpty then ["-"] else paths)
  body { usage with arguments := usage.arguments.filter fun word =>
    !word.startsWith "--colo" }

/-- Passes on the lines that fit a pattern. -/
def grep : Body τ := grepWith []

/-- Passes on the lines that fit an extended pattern. -/
def grepExtended : Body τ := grepWith ['E']

/-- Passes on the lines that hold a text. -/
def grepFixed : Body τ := grepWith ['F']

end TrainingLauncher.Rehearsal.Tool
