/-
Numbers. Digits may be parted by single underscores. A whole number has 64 bits and is decimal,
without needless zeros, or hexadecimal, octal or binary without a sign; a number with a fraction or
an exponent must not be too large for 64 bits either.
-/

import TrainingLauncher.Toml.Quotation

namespace TrainingLauncher.Toml.Number

/-- Reads digits, which may be parted by single underscores. -/
def moreDigits (accepts : Char → Bool) : List Char → List Char × List Char
  | [] => ([], [])
  | char :: rest =>
    if accepts char then
      let (digits, rest) := moreDigits accepts rest
      (char :: digits, rest)
    else if char = '_' then
      match rest with
      | next :: others =>
        if accepts next then
          let (digits, rest) := moreDigits accepts others
          (next :: digits, rest)
        else ([], char :: rest)
      | [] => ([], char :: rest)
    else ([], char :: rest)

/-- Reads one or more digits. -/
def digits (accepts : Char → Bool) : Reader (List Char)
  | [] => none
  | char :: rest =>
    if accepts char then
      let (digits, rest) := moreDigits accepts rest
      some (char :: digits, rest)
    else none

/-- Reads decimal digits; zero is the only number that starts with a zero. -/
def decimal : Reader (List Char)
  | '0' :: rest => some (['0'], rest)
  | source => digits Char.isDigit source

/-- Reads a sign, if there is one; the answer tells whether it is a minus. -/
def sign : List Char → Bool × List Char
  | '+' :: rest => (false, rest)
  | '-' :: rest => (true, rest)
  | source => (false, source)

/-- The value of digits. -/
def value (radix : Nat) (digits : List Char) : Nat :=
  digits.foldl (fun total digit => radix * total + (Quotation.hexDigit? digit).getD 0) 0

/-- A number with its sign. -/
def signed (negative : Bool) (magnitude : Nat) : Int :=
  if negative then -(magnitude : Int) else magnitude

/-- A whole number of 64 bits. -/
def inRange (number : Int) : Option Int :=
  if -9223372036854775808 ≤ number ∧ number ≤ 9223372036854775807 then some number else none

/-- The digits of a radix. -/
def isDigitOf (radix : Nat) (char : Char) : Bool :=
  match Quotation.hexDigit? char with
  | some digit => digit < radix
  | none => false

/-- Reads digits of a radix. -/
def ofRadix (radix : Nat) (source : List Char) : Option (Int × List Char) := do
  let (digits, rest) ← digits (isDigitOf radix) source
  return (← inRange (value radix digits), rest)

/-- Reads a whole number. -/
def integer : Reader Int
  | '0' :: 'x' :: rest => ofRadix 16 rest
  | '0' :: 'o' :: rest => ofRadix 8 rest
  | '0' :: 'b' :: rest => ofRadix 2 rest
  | source => do
    let (negative, unsigned) := sign source
    let (digits, rest) ← decimal unsigned
    return (← inRange (signed negative (value 10 digits)), rest)

/-- Reads a decimal point and the digits after it. -/
def fraction : Reader (List Char)
  | '.' :: rest => digits Char.isDigit rest
  | _ => none

/-- Reads an exponent. -/
def exponent : Reader Int
  | char :: rest =>
    if char = 'e' ∨ char = 'E' then do
      let (negative, unsigned) := sign rest
      let (digits, rest) ← digits Char.isDigit unsigned
      return (signed negative (value 10 digits), rest)
    else none
  | [] => none

/-- From here on a number rounds to infinity: half a unit in the last place above the largest one of
64 bits. -/
def infinityBound : Nat := Nat.pow 2 1024 - Nat.pow 2 970

/-- The number `mantissa * 10 ^ power` rounds to infinity. The number of digits settles all cases
but those near the bound, which has 309 digits. -/
def overflows (mantissa : Nat) (power : Int) : Bool :=
  let size := (Nat.toDigits 10 mantissa).length + power
  if mantissa = 0 ∨ size < 300 then false
  else if size > 320 then true
  else if power < 0 then decide (infinityBound * Nat.pow 10 (-power).toNat ≤ mantissa)
  else decide (infinityBound ≤ mantissa * Nat.pow 10 power.toNat)

/-- What is left after a number with a fraction or an exponent. Only a negative one may be
infinite by its size. -/
def afterFloat (source : List Char) : Option (List Char) :=
  let (negative, unsigned) := sign source
  match unsigned with
  | 'i' :: 'n' :: 'f' :: rest => some rest
  | 'n' :: 'a' :: 'n' :: rest => some rest
  | _ => do
    let (whole, rest) ← decimal unsigned
    let (places, power, rest) ←
      match fraction rest with
      | some (places, rest) =>
        match exponent rest with
        | some (power, rest) => some (places, power, rest)
        | none => some (places, 0, rest)
      | none =>
        match exponent rest with
        | some (power, rest) => some ([], power, rest)
        | none => none
    if !negative && overflows (value 10 (whole ++ places)) (power - places.length) then none
    else return rest

end TrainingLauncher.Toml.Number
