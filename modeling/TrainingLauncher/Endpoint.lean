/-
Network endpoints and the lists of them that are written with commas. An endpoint is read from a
host, a colon and a port; the last colon is the one that counts.
-/

import TrainingLauncher.LaunchError

namespace TrainingLauncher

open Text

/-- A port number. -/
abbrev Port := UInt16

/-- Where a process listens. -/
structure Endpoint where
  host : String
  port : Port
  deriving DecidableEq, Repr

namespace Endpoint

/-- The endpoint as `host:port`. -/
def text (endpoint : Endpoint) : String := endpoint.host ++ ":" ++ toString endpoint.port.toNat

/-- The characters before and after the last colon. -/
def splitLastColon : List Char → Option (List Char × List Char)
  | [] => none
  | char :: rest =>
    match splitLastColon rest with
    | some (before, after) => some (char :: before, after)
    | none => if char = ':' then some ([], rest) else none

/-- Reads an endpoint; blanks around it do not count. -/
def parse (source : String) : Except LaunchError Endpoint :=
  let trimmed := trimChars source.toList
  let shown := String.ofList trimmed
  match splitLastColon trimmed with
  | none => .error (.config (.endpointWithoutPort shown))
  | some ([], _) => .error (.config (.endpointWithoutHost shown))
  | some (host, port) =>
    match Decimal.readChars Decimal.limit16 port with
    | .error fault => .error (.config (.endpointPort shown fault))
    | .ok number => .ok ⟨String.ofList host, UInt16.ofNat number⟩

/-- Reads every endpoint of a list; the first that cannot be read is the error. -/
def parseAll : List String → Except LaunchError (List Endpoint)
  | [] => .ok []
  | source :: rest => do
    let endpoint ← parse source
    let others ← parseAll rest
    return endpoint :: others

/-- Reads a list of endpoints written with commas. An empty piece is an error. -/
def parseList (source : String) : Except LaunchError (List Endpoint) := parseAll (fields source)

/-- A list of endpoints written with commas. -/
def join (endpoints : List Endpoint) : String := joined "," (endpoints.map text)

end Endpoint

end TrainingLauncher
