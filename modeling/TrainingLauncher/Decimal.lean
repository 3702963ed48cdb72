/-
Whole numbers in decimal. A number may start with a plus sign and then has one or more digits;
reading stops at the first character that spoils it, and names what is wrong there.
-/

namespace TrainingLauncher.Decimal

/-- Why a text is not a number in range. -/
inductive Fault where
  | empty
  | notADigit
  | tooLarge
  deriving DecidableEq, Repr

/-- A fault in words. -/
def Fault.message : Fault → String
  | .empty => "cannot parse integer from empty string"
  | .notADigit => "invalid digit found in string"
  | .tooLarge => "number too large to fit in target type"

/-- The value of a digit. -/
def digitValue (char : Char) : Nat := char.toNat - '0'.toNat

/-- Appends the digits `chars` to the number `value`, as long as it stays at most `limit`. -/
def readDigits (limit value : Nat) : List Char → Except Fault Nat
  | [] => .ok value
  | char :: rest =>
    if char.isDigit then
      let longer := 10 * value + digitValue char
      if longer ≤ limit then readDigits limit longer rest else .error .tooLarge
    else .error .notADigit

/-- The number at most `limit` that a list of characters spells. -/
def readChars (limit : Nat) : List Char → Except Fault Nat
  | [] => .error .empty
  | ['+'] => .error .notADigit
  | '+' :: digits => readDigits limit 0 digits
  | digits => readDigits limit 0 digits

/-- The number at most `limit` that a text spells. -/
def read (limit : Nat) (text : String) : Except Fault Nat := readChars limit text.toList

/-- The largest number of 16 bits. -/
def limit16 : Nat := 65535

/-- The largest number of 32 bits. -/
def limit32 : Nat := 4294967295

/-- The largest number of 64 bits. -/
def limit64 : Nat := 18446744073709551615

end TrainingLauncher.Decimal
