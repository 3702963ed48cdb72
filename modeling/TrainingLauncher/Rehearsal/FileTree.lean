/-
A tree of files and directories, and how a system finds its way in it: `FileTree.locate` is the
place that a path leads to, and every operation goes through it. A path is refused for its first
name that leads nowhere, and before that for its length.
-/

import Std.Data.TreeMap
import TrainingLauncher.LaunchError
import TrainingLauncher.Text.Fields

namespace TrainingLauncher

/-- What stands at a place. -/
inductive FileEntry where
  | directory
  | file (content : ByteArray) (executable : Bool)
  /-- A program that every machine has. -/
  | program (name : String)
  /-- Takes everything and holds nothing. -/
  | sink
  /-- Gives zeros without an end. -/
  | zeros
  /-- What a process has open under a number. -/
  | opened (descriptor : Nat)

/-- The entries by their places. The place of an entry is its path from the root, without a slash at
its ends and without empty or dotted names. The root, whose place is empty, is a directory that has
no entry of its own. -/
structure FileTree where
  entries : Std.TreeMap String FileEntry

/-- Where a path leads. -/
structure Place where
  path : String
  /-- What stands there. -/
  entry : Option FileEntry
  /-- The path ends with a slash, which only a directory may. -/
  slashed : Bool

namespace FileTree

/-- The tree with nothing but its root. -/
def empty : FileTree := ⟨∅⟩

section Places

/-- The names along a path. -/
def names (path : String) : List String :=
  ((Text.pieces (· == '/') path.toList).map String.ofList).filter (!·.isEmpty)

/-- The place of an entry in a directory. -/
def below (directory name : String) : String :=
  if directory.isEmpty then name else directory ++ "/" ++ name

/-- The directory that holds a place; the root holds itself. -/
def above (place : String) : String := Text.joined "/" (names place).dropLast

/-- What stands at a place. -/
def entry? (tree : FileTree) (place : String) : Option FileEntry :=
  if place.isEmpty then some .directory else tree.entries[place]?

/-- The tree with an entry put at a place. -/
def put (tree : FileTree) (place : String) (entry : FileEntry) : FileTree :=
  ⟨tree.entries.insert place entry⟩

/-- The tree without the entry at a place. -/
def erase (tree : FileTree) (place : String) : FileTree := ⟨tree.entries.erase place⟩

/-- The place that a name leads to from a directory. -/
def step (directory name : String) : String :=
  if name = "." then directory else if name = ".." then above directory else below directory name

/-- How many bytes a name has at most. -/
def nameLimit : Nat := 255

/-- How many bytes a path has at most. -/
def pathLimit : Nat := 4095

/-- Follows names from a directory. Only the last one may lead to something else than a
directory. -/
def follow (tree : FileTree) (slashed : Bool) (directory : String) :
    List String → Except IoError Place
  | [] => .ok ⟨directory, some .directory, slashed⟩
  | name :: rest =>
    if name.utf8ByteSize > nameLimit then .error .fileNameTooLong
    else
      match tree.entry? (step directory name), rest with
      | some .directory, rest => follow tree slashed (step directory name) rest
      | entry, [] => .ok ⟨step directory name, entry, slashed⟩
      | some _, _ => .error .notADirectory
      | none, _ => .error .notFound

/-- The place that a path leads to; it starts at the root. -/
def locate (tree : FileTree) (path : String) : Except IoError Place :=
  if path.contains '\x00' then .error .nulInPath
  else if path.isEmpty then .error .notFound
  else if path.utf8ByteSize > pathLimit then .error .fileNameTooLong
  else tree.follow (path.endsWith "/") "" (names path)

/-- The place that a path leads to, and what stands there. -/
def look (tree : FileTree) (path : String) : Except IoError (String × FileEntry) := do
  let place ← tree.locate path
  match place.entry with
  | none => throw .notFound
  | some .directory => return (place.path, .directory)
  | some entry => if place.slashed then throw .notADirectory else return (place.path, entry)

/-- A path leads to a directory. -/
def isDirectory (tree : FileTree) (path : String) : Bool :=
  tree.look path matches .ok (_, .directory)

/-- The names of what a directory holds. -/
def children (tree : FileTree) (directory : String) : List String :=
  tree.entries.keys.filterMap fun place =>
    if above place = directory then (names place).getLast? else none

end Places

section Directories

/-- Creates a directory in one that exists. -/
def makeDirectory (tree : FileTree) (path : String) : Except IoError FileTree := do
  let place ← tree.locate path
  match place.entry with
  | some _ => throw .alreadyExists
  | none => return tree.put place.path .directory

/-- The paths of the directories above a path, the nearest first. A dot counts only at the start,
two dots count like a name. -/
def pathsAbove (path : String) : List String :=
  let start := if path.startsWith "/" then "/" else ""
  let plain :=
    match names path with
    | first :: rest => first :: rest.filter (· != ".")
    | [] => []
  (List.range' 1 (plain.length - 1)).reverse.map fun count =>
    start ++ Text.joined "/" (plain.take count)

/-- Creates the first directory of a list, and before it those that follow as far as it takes. What
was created stays even if the rest fails. -/
def createAlong (tree : FileTree) : List String → Except IoError Unit × FileTree
  | [] => (.error .notFound, tree)
  | path :: above =>
    let created (tree : FileTree) : Except IoError Unit × FileTree :=
      match tree.makeDirectory path with
      | .ok grown => (.ok (), grown)
      | .error error => (if tree.isDirectory path then .ok () else .error error, tree)
    match tree.makeDirectory path with
    | .error error =>
      if error.kind = .notFound then
        match createAlong tree above with
        | (.ok (), grown) => created grown
        | failed => failed
      else created tree
    | .ok _ => created tree

/-- Creates a directory and those above it, as far as they are missing. -/
def createDirectory (tree : FileTree) (path : String) : Except IoError Unit × FileTree :=
  if path.isEmpty then (.ok (), tree) else tree.createAlong (path :: pathsAbove path)

/-- Removes a directory that holds nothing. -/
def removeDirectory (tree : FileTree) (path : String) : Except IoError FileTree := do
  let (place, entry) ← tree.look path
  match entry with
  | .directory =>
    if (names path).getLast? = some "." then throw .invalidArgument
    else if (tree.children place).isEmpty && !place.isEmpty then return tree.erase place
    else throw .directoryNotEmpty
  | _ => throw .notADirectory

/-- Removes what stands under a path, with everything in it. -/
def removeTree (tree : FileTree) (path : String) : FileTree :=
  match tree.look path with
  | .error _ => tree
  | .ok (place, _) =>
    ⟨tree.entries.filter fun other _ => other != place && !other.startsWith (place ++ "/")⟩

end Directories

section Files

/-- The place of a file, which is created if it is missing. -/
def createFile (tree : FileTree) (path : String) : Except IoError (String × FileTree) := do
  let place ← tree.locate path
  match place.entry with
  | some .directory => throw .isADirectory
  | entry =>
    if place.slashed then throw .isADirectory
    else if entry.isSome then return (place.path, tree)
    else return (place.path, tree.put place.path (.file .empty false))

/-- Changes the content of a file at a place; anything else is left alone. -/
def alter (tree : FileTree) (place : String) (change : ByteArray → ByteArray) : FileTree :=
  ⟨tree.entries.modify place fun entry =>
    match entry with
    | .file content executable => .file (change content) executable
    | other => other⟩

/-- Replaces the content of a file, which is created if it is missing. -/
def write (tree : FileTree) (path : String) (content : ByteArray) : Except IoError FileTree := do
  let (place, tree) ← tree.createFile path
  return tree.alter place fun _ => content

/-- What is read at an entry. -/
def contentOf : FileEntry → Except IoError ByteArray
  | .file content _ => .ok content
  | .directory => .error .isADirectory
  | _ => .ok .empty

/-- The content of a file. -/
def read (tree : FileTree) (path : String) : Except IoError ByteArray := do
  contentOf (← tree.look path).2

/-- Creates a file if it is missing; the answer tells how long it is. -/
def touch (tree : FileTree) (path : String) : Except IoError (FileTree × Nat) := do
  let (place, tree) ← tree.createFile path
  match tree.entry? place with
  | some (.file content _) => return (tree, content.size)
  | _ => return (tree, 0)

/-- Adds bytes to the end of a file, if there is one under the path. -/
def appendTo (tree : FileTree) (path : String) (bytes : ByteArray) : FileTree :=
  match tree.look path with
  | .error _ => tree
  | .ok (place, _) => tree.alter place (· ++ bytes)

/-- Removes a file. -/
def removeFile (tree : FileTree) (path : String) : Except IoError FileTree := do
  match ← tree.look path with
  | (_, .directory) => throw .isADirectory
  | (place, _) => return tree.erase place

/-- Removes a file; a path without one is left alone. -/
def remove (tree : FileTree) (path : String) : FileTree :=
  (tree.removeFile path).toOption.getD tree

/-- Gives what stands under a path another path. A file takes the place of another one. -/
def move (tree : FileTree) (path other : String) : Except IoError FileTree := do
  let (place, entry) ← tree.look path
  let target ← tree.locate other
  match entry, target.entry with
  | .directory, some .directory =>
    if (tree.children target.path).isEmpty then return carried place target.path
    else throw .directoryNotEmpty
  | .directory, some _ => throw .notADirectory
  | .directory, none => return carried place target.path
  | _, some .directory => throw .isADirectory
  | entry, _ =>
    if target.slashed then throw .notADirectory
    else if place = target.path then return tree
    else return (tree.erase place).put target.path entry
where
  /-- The tree with a directory and everything in it carried elsewhere. -/
  carried (place target : String) : FileTree :=
    ⟨tree.entries.foldl (fun entries other entry =>
      if other = place then entries.insert target entry
      else if other.startsWith (place ++ "/") then
        entries.insert (target ++ String.ofList (other.toList.drop place.length)) entry
      else entries.insert other entry) ∅⟩

/-- The content of a file, as text. -/
def readText (tree : FileTree) (path : String) : Except IoError String := do
  match String.fromUTF8? (← tree.read path) with
  | some text => return text
  | none => throw (.other "stream did not contain valid UTF-8")

/-- Puts a file under a path, with the directories above it. -/
def plant (tree : FileTree) (path : String) (content : ByteArray) : FileTree :=
  let grown :=
    match pathsAbove path with
    | [] => tree
    | directory :: _ => (tree.createDirectory directory).2
  (grown.write path content).toOption.getD grown

/-- Every file with its content, in the order of the places. -/
def files (tree : FileTree) : List (String × ByteArray) :=
  tree.entries.toList.filterMap fun (place, entry) =>
    match entry with
    | .file content _ => some (place, content)
    | _ => none

end Files

end FileTree

end TrainingLauncher
