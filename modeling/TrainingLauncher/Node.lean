/-
The node a launcher runs on: what it can find out about itself, and which node of a job it is.
-/

import TrainingLauncher.Environment
import TrainingLauncher.LaunchError

namespace TrainingLauncher

open Text

/-- What a machine knows of its addresses. An address or a list that it cannot tell is `none`. -/
structure Resolver where
  /-- The address of outbound traffic. -/
  primary : Option String
  /-- The addresses of every network interface. -/
  interfaces : Option (List String)
  deriving DecidableEq, Repr

/-- The surroundings of a launcher. -/
structure Node where
  /-- The environment of the launcher itself. -/
  environment : Environment
  /-- The home directory of the account the launcher runs under, if the machine lists one. -/
  accountHome : Option String
  resolver : Resolver
  /-- The names of the files under `/dev`. -/
  deviceFiles : List String
  /-- What the machine answers, one after the other, when it is asked for a free port. -/
  probes : List (Option UInt16)

/-- The addresses in a list written with commas. -/
def splitAddresses (list : String) : List String := entries list

/-- The node among `nodes` that the machine itself is, as its address and first position. An
explicit address decides. A job on a single node runs here; otherwise the primary address is looked
up first, then the interfaces in their order. -/
def resolveNode (nodes : List String) (explicit : Option String) (resolver : Resolver) :
    Except LaunchError (String × Nat) :=
  let missing (address : Option String) : Except LaunchError (String × Nat) :=
    .error (.config (.nodeNotListed address nodes))
  match nodes, explicit with
  | [], _ => .error (.config .noNodes)
  | [node], none => .ok (node, 0)
  | nodes, some address =>
    match nodes.idxOf? address with
    | some rank => .ok (address, rank)
    | none => missing (some address)
  | nodes, none =>
    let primary := resolver.primary.toList
    let interfaces := resolver.interfaces.getD []
    match (primary ++ interfaces).find? (nodes.contains ·) with
    | some address => .ok (address, nodes.idxOf address)
    | none => missing resolver.primary

end TrainingLauncher
