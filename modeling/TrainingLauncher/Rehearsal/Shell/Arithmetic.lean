/-
Whole-number expressions of shell scripts, with the operators of 64-bit words. An expression is read
first and evaluated then; what it assigns is kept beside the values that variables had before.
-/

import TrainingLauncher.Text.Blank

namespace TrainingLauncher.Rehearsal.Shell

/-- What is wrong with an expression. -/
inductive ArithmeticFault where
  /-- Something else should have stood there. -/
  | malformed (expected : String)
  | divisionByZero
  /-- The value of a variable is no number. -/
  | noNumber (text : String)

/-- An expression. -/
inductive Expression where
  | number (value : Int)
  | variable (name : String)
  | unary (sign : String) (operand : Expression)
  | binary (sign : String) (left right : Expression)
  /-- One of two values, the second if the condition is zero. -/
  | choice (condition yes no : Expression)
  /-- The value of an operator, or of the right side alone, becomes that of a variable. -/
  | assignment (name : String) (sign : Option String) (value : Expression)

section Numbers

/-- The value of a letter as a digit. -/
def digit? (char : Char) : Option Nat :=
  if char.isDigit then some (char.toNat - '0'.toNat)
  else if 'a' ≤ char ∧ char ≤ 'f' then some (char.toNat - 'a'.toNat + 10)
  else if 'A' ≤ char ∧ char ≤ 'F' then some (char.toNat - 'A'.toNat + 10)
  else none

/-- The number that the digits at the start of a text make, and what follows them. -/
def digits (base value : Nat) : List Char → Nat × List Char
  | [] => (value, [])
  | char :: rest =>
    match digit? char with
    | some digit =>
      if digit < base then digits base (base * value + digit) rest else (value, char :: rest)
    | none => (value, char :: rest)

/-- The number at the start of a text, in the base that its first digits tell, and what follows. -/
def prefixedNumber : List Char → Nat × List Char
  | '0' :: 'x' :: char :: rest | '0' :: 'X' :: char :: rest =>
    if (digit? char).isSome then digits 16 0 (char :: rest) else (0, 'x' :: char :: rest)
  | '0' :: rest => digits 8 0 rest
  | rest => digits 10 0 rest

/-- The largest number. -/
def largest : Nat := 9223372036854775807

/-- A number as a word of 64 bits with a sign. -/
def wrapped (value : Int) : Int := Int.bmod value 18446744073709551616

/-- The bits of a number. -/
def bits (value : Int) : UInt64 := UInt64.ofNat (value % 18446744073709551616).toNat

/-- The number that a text stands for, with blanks around it. -/
def wholeNumber? (text : String) : Option Int :=
  let isSpace (char : Char) : Bool := char == ' ' || ('\t' ≤ char && char ≤ '\r')
  let signed (negative : Bool) (source : List Char) : Option Int :=
    if !(source.headD ' ').isDigit then none
    else
      let (value, after) := prefixedNumber source
      if !after.all isSpace || value > largest + (if negative then 1 else 0) then none
      else some (if negative then -(value : Int) else value)
  match text.toList.dropWhile isSpace with
  | '-' :: rest => signed true rest
  | '+' :: rest | rest => signed false rest

end Numbers

section Reading

/-- A piece of an expression. -/
inductive ArithmeticToken where
  | number (value : Int)
  | name (text : String)
  | sign (text : String)
  deriving DecidableEq, Repr

/-- The operators between two values, from the weakest to the strongest. -/
def operatorLevels : List (List String) := [
  ["|"], ["^"], ["&"], ["==", "!="], ["<", ">", "<=", ">="], ["<<", ">>"], ["+", "-"],
  ["*", "/", "%"]]

/-- The operators that an assignment may hold. -/
def assignedOperators : List String := ["<<", ">>", "|", "^", "&", "+", "-", "*", "/", "%"]

/-- The signs of expressions, longer ones first. -/
def arithmeticSigns : List String :=
  ["<<=", ">>=", "||", "&&", "==", "!=", "<=", ">=", "<<", ">>", "|=", "^=", "&=", "+=", "-=", "*=",
    "/=", "%=", "|", "^", "&", "<", ">", "+", "-", "*", "/", "%", "(", ")", "!", "~", "?", ":", "="]

/-- The pieces of an expression, at most `bound`. A character that is none is a sign of its own. -/
def arithmeticTokens : (bound : Nat) → List Char → List ArithmeticToken
  | 0, _ | _, [] => []
  | bound + 1, char :: rest =>
    let source := char :: rest
    if char == ' ' || char == '\t' || char == '\n' then arithmeticTokens bound rest
    else if char.isDigit then
      let (value, after) := prefixedNumber source
      .number (min value largest) :: arithmeticTokens bound after
    else if char.isAlpha || char == '_' then
      let isName (char : Char) : Bool := char.isAlphanum || char == '_'
      .name (String.ofList (source.takeWhile isName)) ::
        arithmeticTokens bound (source.dropWhile isName)
    else
      match arithmeticSigns.find? fun sign => sign.toList.isPrefixOf source with
      | some sign => .sign sign :: arithmeticTokens bound (source.drop sign.length)
      | none => .sign char.toString :: arithmeticTokens bound rest

/-- How an expression is read. -/
abbrev ArithmeticReader :=
  List ArithmeticToken → Except ArithmeticFault (Expression × List ArithmeticToken)

/-- Reads the operators of one strength, at most `bound`. -/
def readOperators (operand : ArithmeticReader) (signs : List String) :
    (bound : Nat) → Expression → ArithmeticReader
  | bound + 1, left, .sign sign :: rest =>
    if signs.contains sign then do
      let (right, rest) ← operand rest
      readOperators operand signs bound (.binary sign left right) rest
    else return (left, .sign sign :: rest)
  | _, left, rest => return (left, rest)

/-- Reads operators from a strength on, given how to read a single value. -/
def readLevels (value : ArithmeticReader) : List (List String) → ArithmeticReader
  | [] => value
  | signs :: stronger => fun source => do
    let operand := readLevels value stronger
    let (left, rest) ← operand source
    readOperators operand signs rest.length left rest

/-- Reads a value and, after a sign, another one that depends on it. -/
def readLogical (operand whole : ArithmeticReader) (sign : String) : ArithmeticReader :=
  fun source => do
    match ← operand source with
    | (left, .sign found :: rest) =>
      if found = sign then do
        let (right, rest) ← whole rest
        return (.binary sign left right, rest)
      else return (left, .sign found :: rest)
    | (left, rest) => return (left, rest)

/-- Reads a single value, given how to read a whole expression and a value after a sign. -/
def readValue (whole value : ArithmeticReader) : ArithmeticReader
  | .number number :: rest => return (.number number, rest)
  | .name name :: rest => return (.variable name, rest)
  | .sign "(" :: rest => do
    match ← whole rest with
    | (inner, .sign ")" :: rest) => return (inner, rest)
    | _ => throw (.malformed "expecting ')'")
  | .sign sign :: rest => do
    if ["-", "+", "!", "~"].contains sign then
      let (inner, rest) ← value rest
      return (.unary sign inner, rest)
    else throw (.malformed "expecting primary")
  | [] => throw (.malformed "expecting primary")

/-- The readers of an expression, at one depth. -/
structure ExpressionReaders where
  value : ArithmeticReader
  both : ArithmeticReader
  either : ArithmeticReader
  choice : ArithmeticReader
  whole : ArithmeticReader

/-- The readers of an expression with at most `bound` of them one inside the other. -/
def expressionReaders : (bound : Nat) → ExpressionReaders
  | 0 =>
    let none : ArithmeticReader := fun _ => throw (.malformed "expecting primary")
    ⟨none, none, none, none, none⟩
  | bound + 1 =>
    let inner := expressionReaders bound
    let value := readValue inner.whole inner.value
    let both := readLogical (readLevels value operatorLevels) inner.both "&&"
    let either := readLogical both inner.either "||"
    let choice : ArithmeticReader := fun source => do
      match ← either source with
      | (condition, .sign "?" :: rest) =>
        match ← inner.whole rest with
        | (yes, .sign ":" :: rest) =>
          let (no, rest) ← inner.choice rest
          return (.choice condition yes no, rest)
        | _ => throw (.malformed "expecting ':'")
      | outcome => return outcome
    let whole : ArithmeticReader := fun source => do
      match source with
      | .name name :: .sign sign :: rest =>
        let operator := (sign.dropEnd 1).toString
        if sign = "=" then do
          let (value, rest) ← inner.whole rest
          return (.assignment name none value, rest)
        else if sign.endsWith "=" && assignedOperators.contains operator then do
          let (value, rest) ← inner.whole rest
          return (.assignment name (some operator) value, rest)
        else choice source
      | source => choice source
    ⟨value, both, either, choice, whole⟩

/-- The expression that a text is. -/
def Expression.ofText (text : String) : Except ArithmeticFault Expression := do
  let tokens := arithmeticTokens (text.length + 1) text.toList
  match ← (expressionReaders (tokens.length + 1)).whole tokens with
  | (expression, []) => return expression
  | _ => throw (.malformed "expecting EOF")

end Reading

section Evaluation

/-- The truth of a statement as a number. -/
def truth (holds : Bool) : Int := if holds then 1 else 0

/-- The value of an operator. -/
def operate (sign : String) (one other : Int) : Except ArithmeticFault Int :=
  match sign with
  | "|" => .ok (wrapped (bits one ||| bits other).toNat)
  | "^" => .ok (wrapped (bits one ^^^ bits other).toNat)
  | "&" => .ok (wrapped (bits one &&& bits other).toNat)
  | "==" => .ok (truth (one == other))
  | "!=" => .ok (truth (one != other))
  | "<" => .ok (truth (decide (one < other)))
  | ">" => .ok (truth (decide (one > other)))
  | "<=" => .ok (truth (decide (one ≤ other)))
  | ">=" => .ok (truth (decide (one ≥ other)))
  | "<<" => .ok (wrapped (bits one <<< bits other).toNat)
  | ">>" => .ok (Int.shiftRight one (bits other % 64).toNat)
  | "+" => .ok (wrapped (one + other))
  | "-" => .ok (wrapped (one - other))
  | "*" => .ok (wrapped (one * other))
  | "/" => if other = 0 then .error .divisionByZero else .ok (wrapped (Int.tdiv one other))
  | _ => if other = 0 then .error .divisionByZero else .ok (wrapped (Int.tmod one other))

/-- The variables that were assigned, with their values, the latest first. -/
abbrev Assigned := List (String × Int)

namespace Expression

/-- The value of a variable, which counts as zero if it has none. -/
def lookUp (valueOf : String → Option String) (assigned : Assigned) (name : String) :
    Except ArithmeticFault Int :=
  match assigned.lookup name with
  | some value => .ok value
  | none =>
    match valueOf name with
    | none | some "" => .ok 0
    | some text =>
      match wholeNumber? text with
      | some value => .ok value
      | none => .error (.noNumber text)

/-- The value of an expression, and what has been assigned. -/
def evaluate (valueOf : String → Option String) :
    Expression → Assigned → Except ArithmeticFault (Int × Assigned)
  | number value, assigned => .ok (value, assigned)
  | .variable name, assigned => do return (← lookUp valueOf assigned name, assigned)
  | unary sign operand, assigned => do
    let (value, assigned) ← evaluate valueOf operand assigned
    match sign with
    | "-" => return (wrapped (-value), assigned)
    | "!" => return (truth (value == 0), assigned)
    | "~" => return (-value - 1, assigned)
    | _ => return (value, assigned)
  | binary "&&" left right, assigned => do
    let (one, assigned) ← evaluate valueOf left assigned
    if one = 0 then return (0, assigned)
    else
      let (other, assigned) ← evaluate valueOf right assigned
      return (truth (other != 0), assigned)
  | binary "||" left right, assigned => do
    let (one, assigned) ← evaluate valueOf left assigned
    if one != 0 then return (1, assigned)
    else
      let (other, assigned) ← evaluate valueOf right assigned
      return (truth (other != 0), assigned)
  | binary sign left right, assigned => do
    let (one, assigned) ← evaluate valueOf left assigned
    let (other, assigned) ← evaluate valueOf right assigned
    return (← operate sign one other, assigned)
  | choice condition yes no, assigned => do
    let (value, assigned) ← evaluate valueOf condition assigned
    if value = 0 then evaluate valueOf no assigned else evaluate valueOf yes assigned
  | assignment name sign value, assigned => do
    let (right, assigned) ← evaluate valueOf value assigned
    let result ←
      match sign with
      | none => pure right
      | some sign => operate sign (← lookUp valueOf assigned name) right
    return (result, (name, result) :: assigned)

end Expression

end Evaluation

end TrainingLauncher.Rehearsal.Shell
