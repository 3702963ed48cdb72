/-
Forwarding of a process's log. A pull reads what the log gained since the last one, up to a limit,
and hands it to the observer piece by piece; only when everything was handed over and flushed does
the position in the log move on.
-/

import TrainingLauncher.Handle

namespace TrainingLauncher.LogTail

/-- The most bytes that one pull forwards. -/
def pullLimit : Nat := 1048576

/-- The most bytes that are handed over at a time. -/
def pieceSize : Nat := 8192

/-- The bytes in pieces of `size`; the last one may be shorter. -/
def pieces (size : Nat) (bytes : ByteArray) : List ByteArray :=
  (List.range ((bytes.size + (size - 1)) / size)).map fun index =>
    bytes.extract (index * size) ((index + 1) * size)

/-- Hands over pieces until one is refused. -/
def forwardAll : List ByteArray → Program (Except IoError Unit)
  | [] => pure (.ok ())
  | piece :: rest => do
    match ← Program.request (.forward piece) with
    | .ok () => forwardAll rest
    | .error refusal => return .error refusal.error

/-- Hands over bytes and flushes; the answer is how many there were. -/
def forward (bytes : ByteArray) : Program (Except IoError Nat) := do
  match ← forwardAll (pieces pieceSize bytes) with
  | .error error => return .error error
  | .ok () =>
    match ← Program.request .flushObserver with
    | .error error => return .error error
    | .ok () => return .ok bytes.size

/-- Forwards what the log of a process gained, and moves on in the log. Without a log there is
nothing to do. -/
def pull (handle : Handle) : Program (Except IoError Unit × Handle) :=
  match handle.logPath with
  | none => return (.ok (), handle)
  | some path => do
    match ← Program.request (.readLog path handle.logOffset pullLimit) with
    | .error error => return (.error error, handle)
    | .ok bytes =>
      match ← forward bytes with
      | .error error => return (.error error, handle)
      | .ok count => return (.ok (), { handle with logOffset := handle.logOffset + count })

end TrainingLauncher.LogTail
