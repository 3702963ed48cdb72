/-
How a document builds its tables. A key may stand once in a table. A dotted key makes the tables on
its way and may extend only tables that dotted keys or the way to a header have made; it may put a
value only into one that a dotted key has made. A header opens a table once, and a list of tables as
often as there are tables in it.
-/

import TrainingLauncher.Toml.Value

namespace TrainingLauncher.Toml.Entries

/-- The entries with a new one at the end. -/
def add (entries : Entries) (key : String) (value : Value) : Entries := entries ++ [(key, value)]

/-- The entries with another value under a key. -/
def replace (entries : Entries) (key : String) (value : Value) : Entries :=
  entries.map fun entry => if entry.1 = key then (key, value) else entry

/-- Changes the table at the end of a path, which starts at a table of an origin. Tables that are
missing on the way are made. With `dotted` the path is one of a dotted key, else of a header. -/
def within (dotted : Bool) (change : Origin → Entries → Option Entries) :
    List String → Origin → Entries → Option Entries
  | [], origin, entries => change origin entries
  | key :: path, _, entries =>
    match entries.lookup key with
    | none => do
      let made := if dotted then Origin.dotted else .implied
      let inner ← within dotted change path made []
      return add entries key (.table made inner)
    | some (.table origin inner) =>
      if origin = .inline ∨ (dotted ∧ origin = .header) then none
      else do
        let inner ← within dotted change path origin inner
        return replace entries key (.table origin inner)
    | some (.tables latest earlier) => do
      let latest ← within dotted change path .header latest
      return replace entries key (.tables latest earlier)
    | some _ => none

/-- Puts a value under a key that a path leads to. -/
def assign (entries : Entries) (path : List String) (key : String) (value : Value) :
    Option Entries :=
  within true
    (fun origin table =>
      if (!path.isEmpty && origin != .dotted) || (table.lookup key).isSome then none
      else some (add table key value))
    path .header entries

/-- Puts a value under a dotted key of the table under a header. -/
def assignBelow (entries : Entries) (header path : List String) (key : String) (value : Value) :
    Option Entries :=
  within false (fun _ table => assign table path key value) header .header entries

/-- Opens the table under a header. -/
def openTable (entries : Entries) (path : List String) (key : String) : Option Entries :=
  within false
    (fun _ table =>
      match table.lookup key with
      | none => some (add table key (.table .header []))
      | some (.table .implied inner) => some (replace table key (.table .header inner))
      | some _ => none)
    path .header entries

/-- Opens a further table of a list of tables. -/
def openNext (entries : Entries) (path : List String) (key : String) : Option Entries :=
  within false
    (fun _ table =>
      match table.lookup key with
      | none => some (add table key (.tables [] []))
      | some (.tables latest earlier) => some (replace table key (.tables [] (latest :: earlier)))
      | some _ => none)
    path .header entries

/-- The table that pairs of dotted keys and values make, none of which may stand twice. -/
def ofPairs (entries : Entries) : List (List String × String × Value) → Option Entries
  | [] => some entries
  | (path, key, value) :: rest =>
    match entries.assign path key value with
    | some entries => ofPairs entries rest
    | none => none

end TrainingLauncher.Toml.Entries
