/-
Programs that list, create, move and remove files.
-/

import TrainingLauncher.Rehearsal.Tool.Streams

namespace TrainingLauncher.Rehearsal.Tool

section Paths

/-- The last name of a path; the root is its own. -/
def baseName (path : String) : String :=
  match (FileTree.names path).getLast? with
  | some name => name
  | none => if path.isEmpty then "" else "/"

/-- The path of what a path leads to, without its last name. -/
def directoryName (path : String) : String :=
  let trimmed := (path.toList.reverse.dropWhile (· == '/')).dropWhile (· != '/')
  let start := (trimmed.dropWhile (· == '/')).reverse
  if !start.isEmpty then String.ofList start else if path.startsWith "/" then "/" else "."

/-- What a path leads to. -/
def view (path : String) : Activity τ (Except IoError FileView) := Activity.call (.view path)

/-- Changes the files. -/
def alter (change : FileChange) : Activity τ (Except IoError Unit) :=
  Activity.call (.change change)

/-- Does something for each path; the status is one if something has failed. -/
def forPaths (usage : Usage) (work : String → Activity τ (Except String Unit)) :
    (status : Nat) → List String → Activity τ Nat
  | status, [] => return status
  | status, path :: rest => do
    match ← work path with
    | .ok () => forPaths usage work status rest
    | .error complaint =>
      usage.complain complaint
      forPaths usage work 1 rest

/-- Creates a file with a content; the answer is why that has failed. -/
def writeFile (path : String) (mode : OpenMode) (content : String) :
    Activity τ (Except IoError Unit) := do
  match ← Activity.call (.open path mode) with
  | .error error => return .error error
  | .ok descriptor =>
    let _ ← writeTo descriptor content
    Activity.call (.close descriptor)
    return .ok ()

/-- How deep directories stand inside of each other at most. -/
def treeDepth : Nat := 4096

end Paths

section Listing

/-- What a list of files shows. -/
structure Listing where
  dots : Bool
  hidden : Bool
  turned : Bool
  marked : Bool
  titled : Bool

/-- The names of a directory that are shown, in order. -/
def Listing.names (listing : Listing) (names : List String) : List String :=
  let shown := if listing.hidden || listing.dots then names else names.filter (!·.startsWith ".")
  let shown := if listing.dots then "." :: ".." :: shown else shown
  let sorted := shown.mergeSort fun one other => !(other < one)
  if listing.turned then sorted.reverse else sorted

/-- The names of a directory as they are shown. -/
def Listing.text (listing : Listing) (path : String) (names : List String) :
    Activity τ String := do
  let lines ← (listing.names names).mapM fun name => do
    let isDirectory ←
      if listing.marked then do
        pure ((← view (path ++ "/" ++ name)) matches .ok (.directory _))
      else pure false
    return name ++ (if isDirectory then "/" else "") ++ "\n"
  return String.join lines

/-- Lists files, and what is in directories. -/
def ls : Body τ :=
  reading "1aAdrRFpCxmtSclhnog" "" [("all", 'a'), ("almost-all", 'A'), ("directory", 'd'),
    ("reverse", 'r'), ("classify", 'F')] false 2 fun arguments usage => do
      let listing : Listing := {
        dots := hasLetter 'a' arguments
        hidden := hasLetter 'A' arguments
        turned := hasLetter 'r' arguments
        marked := hasLetter 'F' arguments || hasLetter 'p' arguments
        titled := (operands arguments).length > 1 }
      let paths := operands arguments
      let views ← (if paths.isEmpty then ["."] else paths).mapM fun path => do
        return (path, ← view path)
      let failed := views.filterMap fun (path, found) =>
        match found with
        | .error error => some (path, error)
        | .ok _ => none
      failed.forM fun (path, error) =>
        usage.complain ("cannot access " ++ quotedName path ++ ": " ++ refusalWords error)
      let (directories, files) := (views.filterMap fun (path, found) =>
        match found with
        | .ok (.directory names) => some (path, some names)
        | .ok _ => some (path, none)
        | .error _ => none).partition fun (_, names) =>
          names.isSome && !hasLetter 'd' arguments
      let sorted := (files.map (·.1)).mergeSort fun one other => !(other < one)
      print (unlines (if listing.turned then sorted.reverse else sorted))
      let directories := directories.mergeSort fun one other => !(other.1 < one.1)
      let texts ← directories.mapM fun (path, names) => do
        let text ← listing.text path (names.getD [])
        return (if listing.titled then path ++ ":\n" else "") ++ text
      if !files.isEmpty && !texts.isEmpty then print "\n"
      print (Text.joined "\n" texts)
      return if failed.isEmpty then 0 else 2

end Listing

section Directories

/-- Creates a directory and those above it, as far as they are missing; the answer is the one that
cannot be created. -/
def createAbove : List String → Activity τ (Except (String × IoError) Unit)
  | [] => return .ok ()
  | path :: rest => do
    match ← alter (.makeDirectory path) with
    | .ok () => createAbove rest
    | .error error =>
      match ← view path with
      | .ok (.directory _) => createAbove rest
      | .ok _ =>
        return .error (path, if rest.isEmpty then error else .notADirectory)
      | .error _ => return .error (path, error)

/-- Creates directories. -/
def mkdir : Body τ := reading "pv" "m" [("parents", 'p')] false 1 fun arguments usage => do
  let paths := operands arguments
  if paths.isEmpty then usage.refuseWithHelp 1 "missing operand"
  else
    forPaths usage (fun path => do
      let words (path : String) (error : IoError) : String :=
        "cannot create directory " ++ quotedName path ++ ": " ++ refusalWords error
      if hasLetter 'p' arguments then
        let above := (FileTree.pathsAbove path).reverse ++ [path]
        match ← createAbove above with
        | .ok () => return .ok ()
        | .error (path, error) => return .error (words path error)
      else
        match ← alter (.makeDirectory path) with
        | .ok () =>
          if hasLetter 'v' arguments then
            print (usage.name ++ ": created directory " ++ quotedName path ++ "\n")
          return .ok ()
        | .error error => return .error (words path error)) 0 paths

/-- Removes directories that hold nothing. -/
def rmdir : Body τ := reading "pv" "" [("parents", 'p')] false 1 fun arguments usage => do
  let paths := operands arguments
  if paths.isEmpty then usage.refuseWithHelp 1 "missing operand"
  else
    forPaths usage (fun path => do
      match ← alter (.removeDirectory path) with
      | .ok () =>
        if hasLetter 'p' arguments then
          (FileTree.pathsAbove path).forM fun above => do
            let _ ← alter (.removeDirectory above)
        return .ok ()
      | .error error =>
        return .error ("failed to remove " ++ quotedName path ++ ": " ++ refusalWords error)) 0
      paths

/-- Removes what a path leads to, with everything in it, at most `bound` directories deep. -/
def removeAll : (bound : Nat) → String → Activity τ (Except IoError Unit)
  | 0, _ => return .error .fileNameTooLong
  | bound + 1, path => do
    match ← view path with
    | .error error => return .error error
    | .ok (.directory names) =>
      names.forM fun name => do
        let _ ← removeAll bound (path ++ "/" ++ name)
      alter (.removeDirectory path)
    | .ok _ => alter (.removeFile path)

/-- Removes files, and directories if that is asked for. -/
def rm : Body τ := reading "rRfvdi" "" [("recursive", 'r'), ("force", 'f')] false 1
    fun arguments usage => do
  let paths := operands arguments
  let forced := hasLetter 'f' arguments
  let deep := hasLetter 'r' arguments || hasLetter 'R' arguments
  if paths.isEmpty && !forced then usage.refuseWithHelp 1 "missing operand"
  else
    forPaths usage (fun path => do
      if deep && [".", ".."].contains (baseName path) then
        return .error ("refusing to remove '.' or '..' directory: skipping " ++ quotedName path)
      let result ←
        match ← view path with
        | .error error => pure (.error error)
        | .ok (.directory names) =>
          if deep then removeAll treeDepth path
          else if hasLetter 'd' arguments && names.isEmpty then alter (.removeDirectory path)
          else pure (.error .isADirectory)
        | .ok _ => alter (.removeFile path)
      match result with
      | .ok () =>
        if hasLetter 'v' arguments then print ("removed " ++ quotedName path ++ "\n")
        return .ok ()
      | .error error =>
        let isMissing := error.kind = .notFound || error.kind = .notADirectory
        if forced && isMissing then return .ok ()
        else return .error ("cannot remove " ++ quotedName path ++ ": " ++ refusalWords error)) 0
      paths

end Directories

section Moving

/-- Where a file goes: a path, or a directory that keeps its name. -/
def placeIn (target path : String) : Activity τ String := do
  match ← view target with
  | .ok (.directory _) =>
    return (if target.endsWith "/" then target else target ++ "/") ++ baseName path
  | _ => return target

/-- A program that takes files somewhere. -/
def taking (take : List Argument → (source target : String) → Activity τ (Except String Unit)) :
    List Argument → Body τ := fun arguments usage => do
  let paths := operands arguments
  match paths.reverse with
  | [] => usage.refuseWithHelp 1 "missing file operand"
  | [path] =>
    usage.refuseWithHelp 1 ("missing destination file operand after " ++ quotedName path)
  | target :: sources =>
    let isDirectory := (← view target) matches .ok (.directory _)
    if sources.length > 1 && !isDirectory then
      let words := match ← view target with
        | .error error => refusalWords error
        | .ok _ => "Not a directory"
      usage.refuse 1 ("target " ++ quotedName target ++ ": " ++ words)
    else
      forPaths usage (fun source => do take arguments source (← placeIn target source)) 0
        sources.reverse

/-- A change of a file in words. -/
def arrow (source target : String) : String := quotedName source ++ " -> " ++ quotedName target

/-- Gives files other paths. -/
def mv : Body τ :=
  reading "fnvi" "" [("force", 'f')] false 1 <| taking fun arguments source target => do
    match ← view source, ← view target with
    | .error error, _ =>
      return .error ("cannot stat " ++ quotedName source ++ ": " ++ refusalWords error)
    | .ok (.directory _), .ok (.file _ _) =>
      return .error ("cannot overwrite non-directory " ++ quotedName target ++
        " with directory " ++ quotedName source)
    | .ok _, _ =>
      if source = target then
        return .error (quotedName source ++ " and " ++ quotedName target ++ " are the same file")
      match ← alter (.move source target) with
      | .ok () =>
        if hasLetter 'v' arguments then print ("renamed " ++ arrow source target ++ "\n")
        return .ok ()
      | .error error => return .error ("cannot move " ++ quotedName source ++ " to " ++
          quotedName target ++ ": " ++ refusalWords error)

/-- Copies what a path leads to, at most `bound` directories deep. -/
def copyAll : (bound : Nat) → (source target : String) → Activity τ (Except String Unit)
  | 0, source, _ => return .error ("cannot copy " ++ quotedName source)
  | bound + 1, source, target => do
    match ← view source with
    | .error error =>
      return .error ("cannot stat " ++ quotedName source ++ ": " ++ refusalWords error)
    | .ok (.directory names) =>
      let _ ← alter (.makeDirectory target)
      let results ← names.mapM fun name =>
        copyAll bound (source ++ "/" ++ name) (target ++ "/" ++ name)
      return results.foldl (fun sofar result => do sofar; result) (.ok ())
    | .ok found =>
      match ← readFile source with
      | .error error => return .error ("cannot open " ++ quotedName source ++
          " for reading: " ++ refusalWords error)
      | .ok content =>
        match ← writeFile target .replacing content with
        | .error error => return .error ("cannot create regular file " ++ quotedName target ++
            ": " ++ refusalWords error)
        | .ok () =>
          if found matches .file _ true then
            let _ ← alter (.setExecutable target true)
          return .ok ()

/-- Copies files. -/
def cp : Body τ :=
  reading "rRafpvLPd" "" [("recursive", 'r')] false 1 <| taking fun arguments source target => do
    let deep := ['r', 'R', 'a'].any fun letter => hasLetter letter arguments
    match ← view source with
    | .error _ => copyAll treeDepth source target
    | .ok (.directory _) =>
      if deep then copyAll treeDepth source target
      else return .error ("-r not specified; omitting directory " ++ quotedName source)
    | .ok _ =>
      if source = target then
        return .error (quotedName source ++ " and " ++ quotedName target ++ " are the same file")
      let result ← copyAll treeDepth source target
      if hasLetter 'v' arguments && result.toOption.isSome then
        print (arrow source target ++ "\n")
      return result

end Moving

section Touching

/-- Creates files that are missing. -/
def touch : Body τ := reading "camh" "dtr" [("no-create", 'c')] false 1 fun arguments usage => do
  let paths := operands arguments
  if paths.isEmpty then usage.refuseWithHelp 1 "missing file operand"
  else
    forPaths usage (fun path => do
      match ← view path with
      | .ok _ => return .ok ()
      | .error _ =>
        if hasLetter 'c' arguments then return .ok ()
        else
          match ← writeFile path .appending "" with
          | .ok () => return .ok ()
          | .error error =>
            return .error ("cannot touch " ++ quotedName path ++ ": " ++ refusalWords error)) 0
      paths

/-- Whether a mode makes a file executable, as far as it tells. -/
def executableBy? (mode : String) : Option (Option Bool) :=
  let chars := mode.toList
  if !chars.isEmpty && chars.all fun char => '0' ≤ char && char ≤ '7' then
    some (some (chars.any fun char => (char.toNat - '0'.toNat) % 2 = 1))
  else
    let whom := chars.takeWhile ['u', 'g', 'o', 'a'].contains
    match chars.drop whom.length with
    | sign :: what =>
      let isKnown :=
        ['+', '-', '='].contains sign && what.all ['r', 'w', 'x', 'X', 's', 't'].contains
      if !isKnown then none
      else if what.contains 'x' then some (some (sign != '-'))
      else some (if sign = '=' then some false else none)
    | [] => none

/-- Changes whether files are executable. -/
def chmod : Body τ := fun usage => do
  let words := usage.arguments.filter fun word => !(["-R", "-f", "-v", "--"].contains word)
  match words with
  | [] => usage.refuseWithHelp 1 "missing operand"
  | [mode] => usage.refuseWithHelp 1 ("missing operand after " ++ quotedName mode)
  | mode :: paths =>
    match (mode.splitOn ",").mapM executableBy? with
    | none => usage.refuseWithHelp 1 ("invalid mode: " ++ quotedName mode)
    | some parts =>
      forPaths usage (fun path => do
        match ← view path with
        | .error error =>
          return .error ("cannot access " ++ quotedName path ++ ": " ++ refusalWords error)
        | .ok _ =>
          match (parts.filterMap id).getLast? with
          | some executable =>
            let _ ← alter (.setExecutable path executable)
            return .ok ()
          | none => return .ok ()) 0 paths

/-- Tries paths until one can be created. -/
def createFresh (create : String → Activity τ (Except IoError Unit)) (start : String) :
    (bound : Nat) → (number : Nat) → Activity τ (Except IoError String)
  | 0, _ => return .error .alreadyExists
  | bound + 1, number => do
    let digits := toString number
    let path := start ++ String.ofList (List.replicate (10 - digits.length) '0') ++ digits
    match ← create path with
    | .ok () => return .ok path
    | .error error =>
      if error = .alreadyExists then createFresh create start bound (number + 1)
      else return .error error

/-- Creates a file or a directory with a name of its own. -/
def mktemp : Body τ := reading "dqut" "p" [("directory", 'd'), ("tmpdir", 'p')] false 1
    fun arguments usage => do
  let create (path : String) : Activity τ (Except IoError Unit) :=
    if hasLetter 'd' arguments then alter (.makeDirectory path)
    else writeFile path .fresh ""
  let start := match (operands arguments).head? with
    | some template =>
      String.ofList (template.toList.reverse.dropWhile (· == 'X')).reverse
    | none => (valueOf? 'p' arguments).getD "/tmp" ++ "/tmp."
  match ← createFresh create start 100000 1 with
  | .ok path =>
    print (path ++ "\n")
    return 0
  | .error error => usage.refuse 1 ("failed to create file via template " ++
      quotedName (start ++ "XXXXXXXXXX") ++ ": " ++ refusalWords error)

end Touching

section Names

/-- Shows the last names of paths. -/
def basename : Body τ := reading "az" "s" [("multiple", 'a'), ("suffix", 's')] true 1
    fun arguments usage => do
  let cut (suffix name : String) : String :=
    if name.endsWith suffix && name != suffix && !suffix.isEmpty then
      (name.dropEnd suffix.length).toString
    else name
  let suffix := valueOf? 's' arguments
  let many := suffix.isSome || hasLetter 'a' arguments
  match operands arguments, many with
  | [], _ => usage.refuseWithHelp 1 "missing operand"
  | paths, true =>
    print (unlines (paths.map fun path => cut (suffix.getD "") (baseName path)))
    return 0
  | [path], false => print (baseName path ++ "\n"); return 0
  | [path, suffix], false => print (cut suffix (baseName path) ++ "\n"); return 0
  | _ :: _ :: extra :: _, false => usage.refuseWithHelp 1 ("extra operand " ++ quotedName extra)

/-- Shows paths without their last names. -/
def dirname : Body τ := reading "z" "" [] true 1 fun arguments usage => do
  match operands arguments with
  | [] => usage.refuseWithHelp 1 "missing operand"
  | paths =>
    print (unlines (paths.map directoryName))
    return 0

/-- Shows the directory that the program is in. -/
def pwd : Body τ := fun _ => do
  print ((← Activity.call .whereabouts) ++ "\n")
  return 0

end Names

end TrainingLauncher.Rehearsal.Tool
