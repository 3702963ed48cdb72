/-
Ports for the processes of a node. A block of ports follows a start port, the same on every node;
free ports are asked of the machine, which is only right when a single node picks its own.
-/

import TrainingLauncher.Endpoint
import TrainingLauncher.Noted

namespace TrainingLauncher

namespace PortBlock

/-- The start port when none is configured. -/
def defaultStart : Port := 6070

/-- How often the machine is asked for a free port. -/
def probeLimit : Nat := 100

/-- The number of ports there are. -/
def portSpace : Nat := 65536

/-- Adds a port to an ascending list of ports, in its place and at most once. -/
def insertPort (port : Port) : List Port → List Port
  | [] => [port]
  | first :: rest =>
    if port < first then port :: first :: rest
    else if port = first then first :: rest
    else first :: insertPort port rest

/-- Goes through the machine's answers until `count` different ports are found. -/
def collect (count : Nat) (found : List Port) : List (Option Port) → Option (List Port)
  | [] => none
  | none :: rest => collect count found rest
  | some port :: rest =>
    let more := insertPort port found
    if more.length ≥ count then some more else collect count more rest

/-- As many different free ports as asked for, ascending; `none` when the machine's answers do not
hold so many. -/
def findFree (count : Nat) (probes : List (Option Port)) : Option (List Port) :=
  if count = 0 then some [] else collect count [] (probes.take probeLimit)

/-- The ports `start + offset, start + offset + 1, …`, `count` of them. -/
def ports (start : Port) (offset count : Nat) : Except LaunchError (List Port) := do
  let first ← counted (start.toNat + offset)
  let last ← counted (first + count)
  if last > portSpace then .error (.config (.portBlock first last start.toNat))
  else return (List.range' first count).map UInt16.ofNat

/-- Ports for `count` processes: the block at `offset` when there is a start port, else free ports,
else the block after the default start port. -/
def allocate (count offset : Nat) (start : Option Port) (probes : List (Option Port)) :
    Noted (List Port) :=
  match start with
  | some start => ports start offset count
  | none =>
    match findFree count probes with
    | some found => return found
    | none => do
      Noted.note .warn "can't find available ports, using the static port range"
      ports defaultStart offset count

end PortBlock

end TrainingLauncher
