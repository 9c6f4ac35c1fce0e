import DatagramShell.Script.Reader

/-!
# Arithmetic in scripts

Expressions over 64-bit integers with the operators, precedences and assignments of the shell
language.  Operands that a condition does not need are not evaluated.
-/

namespace DatagramShell
namespace Script

inductive Operator where
  | add | sub | mul | div | mod
  | shiftLeft | shiftRight
  | less | lessEqual | greater | greaterEqual | equal | notEqual
  | bitAnd | bitXor | bitOr
  | andThen | orElse
  deriving DecidableEq, Repr

namespace Operator

/-- Operators that bind more tightly have a larger number. -/
def precedence : Operator → Nat
  | .mul | .div | .mod => 10
  | .add | .sub => 9
  | .shiftLeft | .shiftRight => 8
  | .less | .lessEqual | .greater | .greaterEqual => 7
  | .equal | .notEqual => 6
  | .bitAnd => 5
  | .bitXor => 4
  | .bitOr => 3
  | .andThen => 2
  | .orElse => 1

end Operator

inductive Expression where
  | number (value : Int)
  | parameter (name : Text)
  | negate (operand : Expression)
  | complement (operand : Expression)
  | opposite (operand : Expression)
  | binary (operator : Operator) (first second : Expression)
  | choice (condition first second : Expression)
  | assign (name : Text) (operator : Option Operator) (value : Expression)

def numberCount : Nat := 18446744073709551616

def leastNumber : Int := -9223372036854775808

def greatestNumber : Int := 9223372036854775807

/-- Numbers are kept in 64 bits. -/
def wrap (value : Int) : Int :=
  Int.bmod value numberCount

def hexDigit? (character : Char) : Option Nat :=
  if character.isDigit then some (character.toNat - 48)
  else if 'a' ≤ character && character ≤ 'f' then some (character.toNat - 87)
  else if 'A' ≤ character && character ≤ 'F' then some (character.toNat - 55)
  else none

/-- The value of digits to a base, if each is smaller than it. -/
def digitsValue? (base : Nat) (digits : Text) : Option Nat :=
  digits.foldlM (fun total character =>
    match hexDigit? character with
    | some digit => if digit < base then some (total * base + digit) else none
    | none => none) 0

/-- A constant that does not fit counts as the nearest number that does. -/
def clamp (value : Int) : Int :=
  max leastNumber (min greatestNumber value)

def isHexDigit (character : Char) : Bool :=
  (hexDigit? character).isSome

def isOctal (character : Char) : Bool :=
  '0' ≤ character && character ≤ '7'

def digitsValue (base : Nat) (digits : Text) : Nat :=
  (digitsValue? base digits).getD 0

/-- The constant at the front of a text, decimal, octal after a zero, or hexadecimal after `0x`, and
what stands behind it. -/
def leadingConstant? (text : Text) : Option (Nat × Text) :=
  let front (base : Nat) (member : Char → Bool) (text : Text) : Option (Nat × Text) :=
    some (digitsValue base (text.takeWhile member), text.dropWhile member)
  match text with
  | '0' :: mark :: digit :: digits =>
    if (mark = 'x' ∨ mark = 'X') ∧ isHexDigit digit then front 16 isHexDigit (digit :: digits)
    else front 8 isOctal text
  | '0' :: _ => front 8 isOctal text
  | digit :: _ => if digit.isDigit then front 10 Char.isDigit text else none
  | [] => none

def splitSign : Text → Int × Text
  | '-' :: text => (-1, text)
  | '+' :: text => (1, text)
  | text => (1, text)

def constant? (text : Text) : Option Nat :=
  match leadingConstant? text with
  | some (value, []) => some value
  | _ => none

/-- The number that a variable's value stands for; an unset or empty variable counts as zero. -/
def variableValue? (text : Text) : Option Int :=
  let text := text.dropWhile fun character => character == ' ' || character == '\t'
  if text.isEmpty then some 0
  else
    let (sign, digits) := splitSign text
    (constant? digits).map fun value => clamp (sign * value)

open Reader

def skipSpace : Reader Unit := do
  let _ ← takeWhile fun character => character == ' ' || character == '\t' || character == '\n'

def readOperator? : Reader (Option Operator) := do
  skipSpace
  match ← rest with
  | '<' :: '<' :: '=' :: _ => return none
  | '>' :: '>' :: '=' :: _ => return none
  | '<' :: '<' :: _ => return some .shiftLeft
  | '>' :: '>' :: _ => return some .shiftRight
  | '<' :: '=' :: _ => return some .lessEqual
  | '>' :: '=' :: _ => return some .greaterEqual
  | '=' :: '=' :: _ => return some .equal
  | '!' :: '=' :: _ => return some .notEqual
  | '&' :: '&' :: _ => return some .andThen
  | '|' :: '|' :: _ => return some .orElse
  | '<' :: _ => return some .less
  | '>' :: _ => return some .greater
  | '*' :: _ => return some .mul
  | '/' :: _ => return some .div
  | '%' :: _ => return some .mod
  | '+' :: _ => return some .add
  | '-' :: _ => return some .sub
  | '&' :: _ => return some .bitAnd
  | '^' :: _ => return some .bitXor
  | '|' :: _ => return some .bitOr
  | _ => return none

def Operator.width : Operator → Nat
  | .shiftLeft | .shiftRight | .lessEqual | .greaterEqual | .equal | .notEqual | .andThen
  | .orElse => 2
  | _ => 1

/-- The sign of an assignment, with the operator that it carries. -/
def readAssignment? : Reader (Option (Option Operator)) := do
  skipSpace
  if (← startsWith ['=']) && !(← startsWith ['=', '=']) then
    skip 1
    return some none
  let signs : List (Text × Operator) :=
    [(['+', '='], .add), (['-', '='], .sub), (['*', '='], .mul), (['/', '='], .div),
      (['%', '='], .mod), (['<', '<', '='], .shiftLeft), (['>', '>', '='], .shiftRight),
      (['&', '='], .bitAnd), (['^', '='], .bitXor), (['|', '='], .bitOr)]
  let text ← rest
  match signs.find? (·.1.isPrefixOf text) with
  | some (sign, operator) =>
    skip sign.length
    return some (some operator)
  | none => return none

mutual

/-- An operand: a number, a variable, a sign with its operand or an expression in parentheses. -/
def readOperand : Nat → Reader Expression
  | 0 => failure
  | bound + 1 => do
    skipSpace
    match ← rest with
    | '(' :: _ =>
      skip 1
      let inner ← readChoice bound
      skipSpace
      expect [')']
      return inner
    | '-' :: _ =>
      skip 1
      return .opposite (← readOperand bound)
    | '+' :: _ =>
      skip 1
      readOperand bound
    | '!' :: _ =>
      skip 1
      return .negate (← readOperand bound)
    | '~' :: _ =>
      skip 1
      return .complement (← readOperand bound)
    | character :: _ =>
      if character.isDigit then
        let digits ← takeWhile Char.isAlphanum
        match constant? digits with
        | some value => return .number (clamp value)
        | none => failure
      else if isNameStart character then
        let name ← takeWhile isNameRest
        match ← readAssignment? with
        | some operator => return .assign name operator (← readChoice bound)
        | none => return .parameter name
      else failure
    | [] => failure

/-- Operators of at least the given precedence, with their second operands. -/
def readBinary (least : Nat) (first : Expression) : Nat → Reader Expression
  | 0 => failure
  | bound + 1 => do
    match ← readOperator? with
    | none => return first
    | some operator =>
      if operator.precedence < least then return first
      else
        skip operator.width
        let operand ← readOperand bound
        let second ← readBinary (operator.precedence + 1) operand bound
        readBinary least (.binary operator first second) bound

/-- A whole expression: a row of operators, or a choice between two expressions. -/
def readChoice : Nat → Reader Expression
  | 0 => failure
  | bound + 1 => do
    let operand ← readOperand bound
    let condition ← readBinary 1 operand bound
    skipSpace
    if ← accept ['?'] then
      let first ← readChoice bound
      skipSpace
      expect [':']
      let second ← readChoice bound
      return .choice condition first second
    else return condition

end

/-- Reads a text that holds one expression; an empty one is zero. -/
def Expression.ofText? (text : Text) : Option Expression :=
  if text.all fun character => character == ' ' || character == '\t' || character == '\n' then
    some (.number 0)
  else
    match (readChoice (4 * text.length + 16)).run text with
    | some (expression, rest) =>
      if rest.all fun character => character == ' ' || character == '\t' || character == '\n' then
        some expression
      else none
    | none => none

namespace Operator

def truth (holds : Bool) : Int :=
  if holds then 1 else 0

def bits (value : Int) : Nat :=
  (value % numberCount).toNat

/-- What an operator makes of two numbers; only a division by zero has no answer. -/
def apply (operator : Operator) (first second : Int) : Option Int :=
  match operator with
  | .add => some (wrap (first + second))
  | .sub => some (wrap (first - second))
  | .mul => some (wrap (first * second))
  | .div => if second = 0 then none else some (wrap (first.tdiv second))
  | .mod => if second = 0 then none else some (wrap (first.tmod second))
  | .shiftLeft => some (wrap (first * Int.ofNat (1 <<< (second % 64).toNat)))
  | .shiftRight => some (first >>> (second % 64).toNat)
  | .less => some (truth (first < second))
  | .lessEqual => some (truth (first ≤ second))
  | .greater => some (truth (first > second))
  | .greaterEqual => some (truth (first ≥ second))
  | .equal => some (truth (first == second))
  | .notEqual => some (truth (first != second))
  | .bitAnd => some (wrap (bits first &&& bits second))
  | .bitXor => some (wrap (bits first ^^^ bits second))
  | .bitOr => some (wrap (bits first ||| bits second))
  | .andThen => some (truth (first != 0 && second != 0))
  | .orElse => some (truth (first != 0 || second != 0))

end Operator

/-- Evaluation reads and changes variables; it fails where a number cannot be had. -/
abbrev Evaluation := StateT (List (Text × Text)) Option

def lookUp (name : Text) (bindings : List (Text × Text)) : Option Text :=
  (bindings.find? (·.1 == name)).map (·.2)

def assignTo (name value : Text) (bindings : List (Text × Text)) : List (Text × Text) :=
  (name, value) :: bindings.filter (·.1 != name)

def numberText (value : Int) : Text :=
  (toString value).toList

namespace Expression

def valueOf (name : Text) : Evaluation Int := do
  match variableValue? ((lookUp name (← get)).getD []) with
  | some value => return value
  | none => failure

def evaluate : Expression → Evaluation Int
  | .number value => return value
  | .parameter name => valueOf name
  | .negate operand => return Operator.truth ((← evaluate operand) == 0)
  | .complement operand => return wrap (-(← evaluate operand) - 1)
  | .opposite operand => return wrap (-(← evaluate operand))
  | .binary .andThen first second => do
    if (← evaluate first) == 0 then return 0
    return Operator.truth ((← evaluate second) != 0)
  | .binary .orElse first second => do
    if (← evaluate first) != 0 then return 1
    return Operator.truth ((← evaluate second) != 0)
  | .binary operator first second => do
    let left ← evaluate first
    let right ← evaluate second
    match operator.apply left right with
    | some value => return value
    | none => failure
  | .choice condition first second => do
    if (← evaluate condition) != 0 then evaluate first else evaluate second
  | .assign name operator value => do
    let value ← evaluate value
    let value ←
      match operator with
      | none => pure value
      | some operator =>
        match operator.apply (← valueOf name) value with
        | some value => pure value
        | none => failure
    modify (assignTo name (numberText value))
    return value

end Expression
end Script
end DatagramShell
