/-
The values of a TOML document. A table remembers how it came to be, which decides what a later part
of the document may still add to it.
-/

namespace TrainingLauncher.Toml

/-- How a table came to be. -/
inductive Origin where
  /-- It is written between braces. -/
  | inline
  /-- It has a header of its own; so has, by courtesy, the document itself. -/
  | header
  /-- A header names it on the way to another table. -/
  | implied
  /-- A key names it on the way to a value. -/
  | dotted
  deriving DecidableEq, Repr

/-- A value of a document. -/
inductive Value where
  | text (value : String)
  | integer (value : Int)
  /-- A number with a fraction or an exponent, as it is written. -/
  | float (spelling : String)
  | boolean (value : Bool)
  /-- A date, a time of day or both, as it is written. -/
  | moment (spelling : String)
  | list (items : List Value)
  | table (origin : Origin) (entries : List (String × Value))
  /-- A list of tables, each under a header; the latest may still grow. -/
  | tables (latest : List (String × Value)) (earlier : List (List (String × Value)))
  deriving Inhabited, Repr

/-- The entries of a table, with their keys. -/
abbrev Entries := List (String × Value)

/-- Reads the start of a text; the answer comes with what is left of the text. -/
abbrev Reader (α : Type) := List Char → Option (α × List Char)

end TrainingLauncher.Toml
