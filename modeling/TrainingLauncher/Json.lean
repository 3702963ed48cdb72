/-
JSON values, how they are printed, and how typed values are read out of them. A record is read from
an object by its member names, or from a list that holds its members in their order.
-/

import TrainingLauncher.Text.Fields

namespace TrainingLauncher

/-- A JSON value. -/
inductive Json where
  | null
  | bool (value : Bool)
  | integer (value : Int)
  /-- A number that is written with a fraction or an exponent, or a negative zero, as it is
  written. -/
  | fraction (spelling : String)
  | text (value : String)
  | list (items : List Json)
  | object (members : List (String × Json))
  deriving Inhabited, Repr

namespace Json

section Printing

/-- A character inside a JSON string. -/
def escaped (char : Char) : String :=
  if char = '"' then "\\\""
  else if char = '\\' then "\\\\"
  else if char = '\x08' then "\\b"
  else if char = '\t' then "\\t"
  else if char = '\n' then "\\n"
  else if char = '\x0c' then "\\f"
  else if char = '\r' then "\\r"
  else if char.toNat < 0x20 then
    "\\u00" ++ String.ofList [Nat.digitChar (char.toNat / 16), Nat.digitChar (char.toNat % 16)]
  else char.toString

/-- A JSON string. -/
def string (text : String) : String := "\"" ++ String.join (text.toList.map escaped) ++ "\""

/-- Puts lines between two brackets, each line indented; nothing stands between the brackets when
there is no line. -/
def enclosed (opening closing indent : String) (lines : List String) : String :=
  if lines.isEmpty then opening ++ closing
  else
    let separator := ",\n" ++ indent ++ "  "
    opening ++ "\n" ++ indent ++ "  " ++ Text.joined separator lines ++ "\n" ++ indent ++ closing

mutual

/-- The value on lines of its own; lines after the first start with `indent`. -/
def pretty (indent : String) : Json → String
  | null => "null"
  | bool value => if value then "true" else "false"
  | integer value => toString value
  | fraction spelling => spelling
  | text value => string value
  | list items => enclosed "[" "]" indent (prettyItems (indent ++ "  ") items)
  | object members => enclosed "\x7b" "\x7d" indent (prettyMembers (indent ++ "  ") members)

/-- The items of a list. -/
def prettyItems (indent : String) : List Json → List String
  | [] => []
  | item :: rest => pretty indent item :: prettyItems indent rest

/-- The members of an object. -/
def prettyMembers (indent : String) : List (String × Json) → List String
  | [] => []
  | (name, value) :: rest =>
    (string name ++ ": " ++ pretty indent value) :: prettyMembers indent rest

end

end Printing

section Reading

/-- A value that may be missing. -/
def ofOption (encode : α → Json) : Option α → Json
  | none => null
  | some value => encode value

/-- The number at most `limit` that a value is. -/
def natural? (limit : Nat) : Json → Option Nat
  | integer value => if 0 ≤ value ∧ value ≤ limit then some value.toNat else none
  | _ => none

/-- The text that a value is. -/
def text? : Json → Option String
  | text value => some value
  | _ => none

/-- Reads a value unless it is `null`. -/
def nullable? (decode : Json → Option α) : Json → Option (Option α)
  | null => some none
  | value => (decode value).map some

/-- Reads every item of a list. -/
def readAll? (decode : Json → Option α) : List Json → Option (List α)
  | [] => some []
  | item :: rest => do
    let first ← decode item
    let others ← readAll? decode rest
    return first :: others

/-- Reads a list. -/
def list? (decode : Json → Option α) : Json → Option (List α)
  | list items => readAll? decode items
  | _ => none

/-- Reads one of several names; it may also be the only member of an object, with `null`. -/
def choice? (ofName : String → Option α) : Json → Option α
  | text name => ofName name
  | object [(name, null)] => ofName name
  | _ => none

/-- Two members have the same one of these names. -/
def isRepeating (names : List String) : List (String × Json) → Bool
  | [] => false
  | (name, _) :: rest =>
    names.contains name && (rest.lookup name).isSome || isRepeating names rest

/-- The members of a record with these names, none of which may repeat; other members do not matter.
A list may leave out members at its end, as long as it has `least` of them. -/
def record? (names : List String) (least : Nat) : Json → Option (List (String × Json))
  | object members => if isRepeating names members then none else some members
  | list items =>
    if least ≤ items.length ∧ items.length ≤ names.length then some (names.zip items) else none
  | _ => none

/-- Reads a member that must be there. -/
def required? (members : List (String × Json)) (name : String) (decode : Json → Option α) :
    Option α :=
  (members.lookup name).bind decode

/-- Reads a member that may be missing or `null`. -/
def optional? (members : List (String × Json)) (name : String) (decode : Json → Option α) :
    Option (Option α) :=
  match members.lookup name with
  | none => some none
  | some value => nullable? decode value

/-- Reads a member that may be missing. -/
def defaulted? (members : List (String × Json)) (name : String) (default : α)
    (decode : Json → Option α) : Option α :=
  match members.lookup name with
  | none => some default
  | some value => decode value

end Reading

end Json

end TrainingLauncher
