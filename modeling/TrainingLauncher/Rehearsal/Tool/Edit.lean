/-
Editing lines: a script of commands is carried out for each line, which is then passed on. A command
may be meant only for some lines.
-/

import TrainingLauncher.Rehearsal.Tool.Regular
import TrainingLauncher.Rehearsal.Tool.Streams

namespace TrainingLauncher.Rehearsal.Tool

section Commands

/-- A line that a command is meant for. -/
inductive Address where
  | number (line : Nat)
  | final
  | fitting (pattern : Regular) (folded : Bool)
  /-- Every so many lines from one on. -/
  | every (first step : Nat)

/-- The lines that a command is meant for. -/
inductive Extent where
  | everywhere
  | single (address : Address)
  /-- From one line to another. -/
  | range (first last : Address)

/-- A piece of what is put in the place of a match. -/
inductive Substitute where
  | text (chars : String)
  /-- What a group has matched; zero stands for the whole match. -/
  | group (number : Nat)

/-- What a command does. -/
inductive Edit where
  | substitute (pattern : Regular) (pieces : List Substitute) (occurrence : Nat)
    (all folded prints : Bool)
  | exchange (pairs : List (Char × Char))
  | print
  | delete
  | quit (status : Nat)
  | showNumber
  | append (text : String)
  | insert (text : String)
  | change (text : String)
  /-- Adds the next line. -/
  | join
  /-- Goes on with the next line. -/
  | next

/-- A command. -/
structure EditCommand where
  extent : Extent
  /-- It is meant for the other lines. -/
  turned : Bool
  edit : Edit

end Commands

section Reading

/-- How scripts are read: what is left, or what is wrong. -/
abbrev EditReader := StateT (List Char) (Except String)

/-- Reads up to a delimiter; one after a backslash does not count. -/
def upTo (delimiter : Char) : List Char → Option (List Char × List Char)
  | [] => none
  | '\\' :: char :: rest => do
    let (inside, after) ← upTo delimiter rest
    if char = delimiter then return (char :: inside, after)
    else return ('\\' :: char :: inside, after)
  | char :: rest =>
    if char = delimiter then some ([], rest)
    else do
      let (inside, after) ← upTo delimiter rest
      return (char :: inside, after)

/-- Skips blanks. -/
def skipBlanks : EditReader Unit :=
  modify (·.dropWhile fun char => char == ' ' || char == '\t')

/-- Reads a pattern. -/
def readPattern (style : Regular.Style) (chars : List Char) : EditReader Regular := do
  match Regular.ofText style (String.ofList chars) with
  | .ok pattern => return pattern
  | .error complaint => throw complaint

/-- Reads an address, if there is one. -/
def readAddress (style : Regular.Style) : EditReader (Option Address) := do
  match ← get with
  | '$' :: rest =>
    set rest
    return some .final
  | '/' :: rest =>
    match upTo '/' rest with
    | none => throw "unterminated address regex"
    | some (inside, after) =>
      let folded := after.head? = some 'I'
      set (if folded then after.tail else after)
      return some (.fitting (← readPattern style inside) folded)
  | source =>
    if (source.headD ' ').isDigit then
      let (first, rest) := Shell.digits 10 0 source
      match rest with
      | '~' :: rest =>
        let (step, rest) := Shell.digits 10 0 rest
        set rest
        return some (.every first step)
      | rest =>
        set rest
        return some (.number first)
    else return none

/-- The pieces of what is put in the place of a match, at most `bound`. -/
def substitutes : (bound : Nat) → List Char → List Substitute
  | 0, _ | _, [] => []
  | bound + 1, '&' :: rest => .group 0 :: substitutes bound rest
  | bound + 1, '\\' :: char :: rest =>
    let piece : Substitute :=
      if char.isDigit then .group (char.toNat - '0'.toNat)
      else if char = 'n' then .text "\n"
      else if char = 't' then .text "\t"
      else .text char.toString
    piece :: substitutes bound rest
  | bound + 1, char :: rest => .text char.toString :: substitutes bound rest

/-- Reads the letters after a substitution, at most `bound`. -/
def readFlags : (bound : Nat) → Nat × Bool × Bool × Bool →
    EditReader (Nat × Bool × Bool × Bool)
  | 0, flags => return flags
  | bound + 1, (occurrence, all, folded, prints) => do
    match ← get with
    | 'g' :: rest => set rest; readFlags bound (occurrence, true, folded, prints)
    | 'p' :: rest => set rest; readFlags bound (occurrence, all, folded, true)
    | 'i' :: rest | 'I' :: rest => set rest; readFlags bound (occurrence, all, true, prints)
    | source =>
      if (source.headD ' ').isDigit then
        let (number, rest) := Shell.digits 10 0 source
        set rest
        readFlags bound (number, all, folded, prints)
      else return (occurrence, all, folded, prints)

/-- Reads two parts between delimiters. -/
def readParts (name : String) : EditReader (List Char × List Char) := do
  let unterminated : EditReader (List Char × List Char) :=
    throw ("unterminated \x60" ++ name ++ "' command")
  match ← get with
  | [] => unterminated
  | delimiter :: rest =>
    match (upTo delimiter rest).bind fun (first, rest) =>
        (upTo delimiter rest).map fun (second, rest) => (first, second, rest) with
    | none => unterminated
    | some (first, second, rest) =>
      set rest
      return (first, second)

/-- Reads the text of a command that adds lines. -/
def readText : EditReader String := do
  skipBlanks
  let source ← get
  let source :=
    match source with
    | '\\' :: '\n' :: rest => rest
    | '\\' :: rest => rest
    | rest => rest
  let text := source.takeWhile (· != '\n')
  set (source.drop text.length)
  return String.ofList text

/-- Reads what a command does. -/
def readEdit (style : Regular.Style) : EditReader Edit := do
  match ← get with
  | [] => throw "missing command"
  | char :: rest =>
    set rest
    match char with
    | 's' =>
      let (pattern, replacement) ← readParts "s"
      let (occurrence, all, folded, prints) ← readFlags 8 (1, false, false, false)
      let pattern ← readPattern style pattern
      return .substitute pattern (substitutes replacement.length replacement) occurrence all folded
        prints
    | 'y' =>
      let (first, second) ← readParts "y"
      if first.length != second.length then
        throw "strings for \x60y' command are different lengths"
      return .exchange (first.zip second)
    | 'p' => return .print
    | 'd' => return .delete
    | 'q' =>
      skipBlanks
      let (status, rest) := Shell.digits 10 0 (← get)
      set rest
      return .quit status
    | '=' => return .showNumber
    | 'a' => return .append (← readText)
    | 'i' => return .insert (← readText)
    | 'c' => return .change (← readText)
    | 'N' => return .join
    | 'n' => return .next
    | char => throw ("unknown command: \x60" ++ char.toString ++ "'")

/-- Reads commands, at most `bound`. -/
def readEdits (style : Regular.Style) : (bound : Nat) → EditReader (List EditCommand)
  | 0 => return []
  | bound + 1 => do
    modify (·.dropWhile fun char => [' ', '\t', '\n', ';'].contains char)
    match ← get with
    | [] => return []
    | '#' :: rest =>
      set (rest.dropWhile (· != '\n'))
      readEdits style bound
    | _ =>
      let first ← readAddress style
      skipBlanks
      let extent ←
        match first, ← get with
        | some address, ',' :: rest =>
          set (rest.dropWhile (· == ' '))
          match ← readAddress style with
          | some last => pure (.range address last)
          | none => throw "unexpected \x60,'"
        | some address, _ => pure (.single address)
        | none, _ => pure .everywhere
      skipBlanks
      let turned := (← get).head? = some '!'
      if turned then
        modify List.tail
        skipBlanks
      let edit ← readEdit style
      skipBlanks
      match ← get with
      | [] | ';' :: _ | '\n' :: _ | '#' :: _ => pure ()
      | _ => throw (if edit matches .substitute .. then "unknown option to \x60s'"
          else "extra characters after command")
      return ⟨extent, turned, edit⟩ :: (← readEdits style bound)

end Reading

section Editing

/-- What an editor keeps: the text of the line, its number, the lines that follow, and the commands
whose ranges are open. -/
structure Editor where
  text : String
  number : Nat
  rest : List String
  opened : List Nat
  /-- What has been passed on, the latest first. -/
  shown : List String
  /-- What is passed on after the line. -/
  appended : List String

/-- An address means the line. -/
def Editor.isAt (editor : Editor) : Address → Bool
  | .number line => editor.number == line
  | .final => editor.rest.isEmpty
  | .fitting pattern folded => (pattern.find? ⟨editor.text.toList.toArray, folded⟩ 0).isSome
  | .every first step =>
    if step = 0 then editor.number == first
    else editor.number ≥ first && (editor.number - first) % step == 0

/-- A command, which is the one of a number, is meant for the line; ranges open and close with
that. -/
def Editor.enters (editor : Editor) (index : Nat) : Extent → Bool × Editor
  | .everywhere => (true, editor)
  | .single address => (editor.isAt address, editor)
  | .range first last =>
    let closed := { editor with opened := editor.opened.filter (· != index) }
    if editor.opened.contains index then
      match last with
      | .number line =>
        if editor.number > line then (editor.isAt first, closed)
        else (true, if editor.number = line then closed else editor)
      | last => (true, if editor.isAt last then closed else editor)
    else if editor.isAt first then
      let ends := match last with
        | .number line => decide (line ≤ editor.number)
        | _ => false
      (true, if ends then editor else { editor with opened := index :: editor.opened })
    else (false, editor)

/-- What is put in the place of a match. -/
def substituted (subject : Regular.Subject) (found : Regular.Match) (pieces : List Substitute) :
    String :=
  String.join (pieces.map fun piece =>
    let part (start finish : Nat) : String :=
      String.ofList (subject.chars.extract start finish).toList
    match piece with
    | .text chars => chars
    | .group 0 => part found.start found.finish
    | .group number =>
      match found.groups.lookup number with
      | some (start, finish) => part start finish
      | none => "")

/-- The text with matches replaced from an occurrence on, at most `bound`; whether one was. -/
def replaced (pattern : Regular) (subject : Regular.Subject) (pieces : List Substitute)
    (all : Bool) : (bound : Nat) → (occurrence start : Nat) → String × Bool
  | 0, _, start => (String.ofList (subject.chars.toList.drop start), false)
  | bound + 1, occurrence, start =>
    let part (start finish : Nat) : String :=
      String.ofList (subject.chars.extract start finish).toList
    match pattern.find? subject start with
    | none => (part start subject.chars.size, false)
    | some found =>
      let before := part start found.start
      let hit := occurrence ≤ 1
      let middle :=
        if hit then substituted subject found pieces else part found.start found.finish
      if hit && !all then (before ++ middle ++ part found.finish subject.chars.size, true)
      else
        let isEmpty := found.finish = found.start
        let skipped := if isEmpty then part found.finish (found.finish + 1) else ""
        let next := if isEmpty then found.finish + 1 else found.finish
        if next > subject.chars.size then (before ++ middle, hit)
        else
          let atEnd := next = subject.chars.size && !isEmpty
          if atEnd then (before ++ middle, hit)
          else
            let (others, more) := replaced pattern subject pieces all bound (occurrence - 1) next
            (before ++ middle ++ skipped ++ others, hit || more)

/-- What becomes of a line. -/
inductive Outcome where
  | passedOn
  | dropped
  | ended (status : Nat)

/-- Shows a line. -/
def Editor.show (editor : Editor) (line : String) : Editor :=
  { editor with shown := (line ++ "\n") :: editor.shown }

/-- Carries out commands for the line. -/
def Editor.apply (quiet : Bool) (editor : Editor) : List (EditCommand × Nat) → Editor × Outcome
  | [] => (editor, .passedOn)
  | (command, index) :: others =>
    let (meant, editor) := editor.enters index command.extent
    if meant = command.turned then apply quiet editor others
    else
      match command.edit with
      | .substitute pattern pieces occurrence all folded prints =>
        let subject : Regular.Subject := ⟨editor.text.toList.toArray, folded⟩
        let (text, hit) := replaced pattern subject pieces all (subject.chars.size + 2) occurrence 0
        let editor := { editor with text }
        apply quiet (if hit && prints then editor.show text else editor) others
      | .exchange pairs =>
        let text := String.ofList (editor.text.toList.map fun char => (pairs.lookup char).getD char)
        apply quiet { editor with text } others
      | .print => apply quiet (editor.show editor.text) others
      | .delete => (editor, .dropped)
      | .quit status => (editor, .ended status)
      | .showNumber => apply quiet (editor.show (toString editor.number)) others
      | .append text => apply quiet { editor with appended := editor.appended ++ [text] } others
      | .insert text => apply quiet (editor.show text) others
      | .change text => (editor.show text, .dropped)
      | .join =>
        match editor.rest with
        | [] => (editor, .ended 0)
        | line :: rest =>
          apply quiet { editor with
            text := editor.text ++ "\n" ++ line, number := editor.number + 1, rest } others
      | .next =>
        let editor := if quiet then editor else editor.show editor.text
        match editor.rest with
        | [] => (editor, .dropped)
        | line :: rest =>
          apply quiet { editor with text := line, number := editor.number + 1, rest } others

/-- Edits the lines that are left, at most `bound`: what is shown, and the status. -/
def Editor.run (quiet : Bool) (commands : List (EditCommand × Nat)) :
    (bound : Nat) → Editor → String × Nat
  | 0, editor => (String.join editor.shown.reverse, 0)
  | bound + 1, editor =>
    let (editor, outcome) := editor.apply quiet commands
    let passes := !quiet && !(outcome matches .dropped)
    let editor := if passes then editor.show editor.text else editor
    let editor := editor.appended.foldl Editor.show { editor with appended := [] }
    match outcome, editor.rest with
    | .ended status, _ => (String.join editor.shown.reverse, status)
    | _, [] => (String.join editor.shown.reverse, 0)
    | _, line :: rest =>
      run quiet commands bound { editor with text := line, number := editor.number + 1, rest }

/-- Edits lines. -/
def sed : Body τ :=
  reading "nErsuz" "e" [("quiet", 'n'), ("silent", 'n'), ("regexp-extended", 'E'),
    ("expression", 'e')] false 1 fun arguments usage => do
    let given := arguments.filterMap fun argument =>
      match argument with
      | .letter 'e' value => value
      | _ => none
    let words := operands arguments
    let (script, paths) :=
      if given.isEmpty then (words.headD "", words.drop 1) else (Text.joined "\n" given, words)
    let extended := hasLetter 'E' arguments || hasLetter 'r' arguments
    let style : Regular.Style := if extended then .extended else .basic
    if given.isEmpty && words.isEmpty then
      usage.refuse 1 "no script specified"
    else
      match (readEdits style (script.length + 1)).run script.toList with
      | .error complaint =>
        usage.refuse 1 ("-e expression #1, char " ++ toString script.length ++ ": " ++ complaint)
      | .ok (commands, _) =>
        let (contents, complete) ←
          gather usage (fun path error => "can't read " ++ plainly path error) paths
        let text := String.join (contents.map (·.2))
        let quiet := hasLetter 'n' arguments
        match linesOf text with
        | [] => return if complete then 0 else 2
        | line :: rest =>
          let editor : Editor := ⟨line, 1, rest, [], [], []⟩
          let (shown, status) := editor.run quiet commands.zipIdx (rest.length + 1)
          let whole := text.endsWith "\n"
          print (if whole then shown else (shown.dropEnd 1).toString)
          return if complete then status else 2

end Editing

end TrainingLauncher.Rehearsal.Tool
