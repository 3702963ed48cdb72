/-
Where the descriptors of a command lead. Redirections are made in order; those of a command are
undone when it is over, whatever its end.
-/

import TrainingLauncher.Rehearsal.Shell.Expansion
import TrainingLauncher.Rehearsal.Tool.Usage

namespace TrainingLauncher.Rehearsal.Shell

/-- Does something after a body, whatever the end of the body. -/
def afterwards (body : Conduct α) (last : Conduct Unit) : Conduct α :=
  ExceptT.mk do
    let result ← body.run
    match ← last.run with
    | .ok () => return result
    | .error departure => return .error departure

/-- Lets a body fail; the answer tells whether it has not. -/
def attempted (body : Conduct α) : Conduct (Option α) :=
  ExceptT.mk do
    match ← body.run with
    | .ok value => return .ok (some value)
    | .error .failure => return .ok none
    | .error departure => return .error departure

/-- What a descriptor is to stand for, with its words expanded. -/
inductive Outlook where
  | same (descriptor : Option Nat)
  | file (path : String) (mode : OpenMode)
  | document (text : String)

namespace Redirection

/-- Expands the words of a redirection. -/
def expand (redirection : Redirection) : Conduct (Nat × Outlook) := do
  let options := (← get).options
  let file (path : ScriptWord) (mode : OpenMode) : Conduct Outlook := do
    return .file (← expandText path) mode
  let ending ←
    match redirection.target with
    | .same descriptor => pure (.same descriptor)
    | .named word => do
      let text ← expandText word
      match text.toList with
      | ['-'] => pure (.same none)
      | [digit] =>
        if digit.isDigit then pure (.same (some (digit.toNat - '0'.toNat)))
        else refuse "Syntax error: Bad fd number"
      | _ => refuse "Syntax error: Bad fd number"
    | .source path => file path .reading
    | .replaced path => do
      let path ← expandText path
      let isFile := (← ask (.view path)) matches .ok (.file _ _)
      pure (.file path (if options.cautious && isFile then .fresh else .replacing))
    | .forced path => file path .replacing
    | .extended path => file path .appending
    | .updated path => file path .updating
    | .document text => return (redirection.descriptor, .document (pieceText (← wordPieces text)))
  return (redirection.descriptor, ending)

end Redirection

/-- Why a file cannot be opened or created. -/
def openingWords (creates : Bool) (error : IoError) : String :=
  if error.kind = .notFound || error.kind = .notADirectory then
    if creates then "Directory nonexistent" else "No such file"
  else refusalWords error

/-- Has a descriptor stand for what another one stands for, which is closed. -/
def moveDescriptor (source target : Nat) : Conduct Unit := do
  if source != target then
    let _ ← ask (.duplicate source target)
    ask (.close source)

/-- Makes a redirection. -/
def redirect (descriptor : Nat) : Outlook → Conduct Unit
  | .same none => ask (.close descriptor)
  | .same (some other) => do
    match ← ask (.duplicate other descriptor) with
    | .ok () => return
    | .error error => refuse (toString other ++ ": " ++ refusalWords error)
  | .file path mode => do
    match ← ask (.open path mode) with
    | .ok opened => moveDescriptor opened descriptor
    | .error error =>
      let creates := mode.writes
      refuse ((if creates then "cannot create " else "cannot open ") ++ path ++ ": " ++
        openingWords creates error)
  | .document text => do
    let (start, finish) ← ask .pipe
    let _ ← ask (.write finish (Text.ofOctets text))
    ask (.close finish)
    moveDescriptor start descriptor

/-- A descriptor, and where what it stood for is kept. -/
structure Kept where
  descriptor : Nat
  place : Option Nat

/-- Keeps what a descriptor stands for. -/
def keepDescriptor (descriptor : Nat) : Conduct Kept := do
  return ⟨descriptor, (← ask (.keep descriptor)).toOption⟩

/-- Brings back what a descriptor stood for. -/
def Kept.restore (kept : Kept) : Conduct Unit := do
  match kept.place with
  | some place => moveDescriptor place kept.descriptor
  | none => ask (.close kept.descriptor)

/-- Forgets what a descriptor stood for. -/
def Kept.forget (kept : Kept) : Conduct Unit := do
  match kept.place with
  | some place => ask (.close place)
  | none => return

/-- Makes redirections in order; what the descriptors stood for is added to what is kept. The answer
tells whether all could be made. -/
def redirectAll : List (Nat × Outlook) → List Kept → Conduct (List Kept × Bool)
  | [], kept => return (kept, true)
  | (descriptor, ending) :: rest, kept => do
    let kept ←
      if kept.any (·.descriptor == descriptor) then pure kept
      else pure ((← keepDescriptor descriptor) :: kept)
    match ← attempted (redirect descriptor ending) with
    | some () => redirectAll rest kept
    | none => return (kept, false)

/-- Where complaints go that are not to be redirected. -/
def complaintsOutside (kept : List Kept) : Nat :=
  ((kept.find? (·.descriptor == 2)).bind (·.place)).getD 2

/-- Carries out a body with redirections, or something else if they cannot be made. The body is told
where complaints went before. -/
def redirecting (redirections : List Redirection) (failed : Conduct α) (body : Nat → Conduct α) :
    Conduct α := do
  if redirections.isEmpty then body 2
  else
    let endings ← redirections.mapM Redirection.expand
    let (kept, ready) ← redirectAll endings []
    if ready then afterwards (body (complaintsOutside kept)) (kept.forM Kept.restore)
    else
      kept.forM Kept.restore
      failed

/-- Carries out a body with redirections that are not undone. -/
def redirectForGood (redirections : List Redirection) (failed : Conduct α)
    (body : Nat → Conduct α) : Conduct α := do
  let endings ← redirections.mapM Redirection.expand
  let (kept, ready) ← redirectAll endings []
  if ready then
    let result ← body (complaintsOutside kept)
    kept.forM Kept.forget
    return result
  else
    kept.forM Kept.restore
    failed

end TrainingLauncher.Rehearsal.Shell
