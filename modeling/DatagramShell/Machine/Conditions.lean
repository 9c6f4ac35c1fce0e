import DatagramShell.Script.Arithmetic
import DatagramShell.Machine.State
import DatagramShell.Machine.Fields

/-!
# Conditions

The expressions of `test`: properties of texts, numbers and files, and their combinations.  An
expression without a meaning has no truth value.
-/

namespace DatagramShell
namespace Script

/-- What is at a path, as far as conditions ask for it. -/
structure FileFacts where
  isThere : Bool := false
  isDirectory : Bool := false
  isPlain : Bool := false
  isDevice : Bool := false
  isWritable : Bool := false
  isExecutable : Bool := false
  size : Nat := 0

def factsOf (path : Text) : Running FileFacts := do
  let shell ← get
  match shell.files.lookup path with
  | some index =>
    let size := (shell.pipes[index]?.map (·.content.size)).getD 0
    return { isThere := true, isPlain := true, isWritable := true, size }
  | none =>
    match Files.find (pathText path) with
    | .error _ => return {}
    | .ok .directory =>
      return { isThere := true, isDirectory := true, isExecutable := true, size := 1 }
    | .ok .plain => return { isThere := true, isPlain := true, size := 1 }
    | .ok (.program _) =>
      return { isThere := true, isPlain := true, isExecutable := true, size := 1 }
    | .ok _ => return { isThere := true, isDevice := true, isWritable := true }

def integer? (text : Text) : Option Int :=
  let text := text.dropWhile Segment.isSpace
  let text := (text.reverse.dropWhile Segment.isSpace).reverse
  let digits? (digits : Text) : Option Int :=
    if digits.isEmpty then none else (digitsValue? 10 digits).map (Int.ofNat ·)
  match text with
  | '-' :: digits => (digits? digits).map (- ·)
  | '+' :: digits => digits? digits
  | digits => digits? digits

def unary? (operator operand : Text) : Running (Option Bool) := do
  match String.ofList operator with
  | "-n" => return some (!operand.isEmpty)
  | "-z" => return some operand.isEmpty
  | "-t" => return some false
  | "-e" => return some (← factsOf operand).isThere
  | "-d" => return some (← factsOf operand).isDirectory
  | "-f" => return some (← factsOf operand).isPlain
  | "-c" => return some (← factsOf operand).isDevice
  | "-r" => return some (← factsOf operand).isThere
  | "-w" => return some (← factsOf operand).isWritable
  | "-x" => return some (← factsOf operand).isExecutable
  | "-s" => return some ((← factsOf operand).size != 0)
  | "-h" | "-L" | "-p" | "-b" | "-S" | "-u" | "-g" | "-k" => return some false
  | _ => return none

def isUnary (operator : Text) : Bool :=
  ["-n", "-z", "-t", "-e", "-d", "-f", "-c", "-r", "-w", "-x", "-s", "-h", "-L", "-p", "-b", "-S",
    "-u", "-g", "-k"].any (·.toList == operator)

def binary? (first operator second : Text) : Option Bool :=
  let compare (holds : Int → Int → Bool) : Option Bool := do
    return holds (← integer? first) (← integer? second)
  match String.ofList operator with
  | "=" | "==" => some (first == second)
  | "!=" => some (first != second)
  | "<" => some (decide (first < second))
  | ">" => some (decide (second < first))
  | "-eq" => compare fun a b => a == b
  | "-ne" => compare fun a b => a != b
  | "-lt" => compare fun a b => a < b
  | "-le" => compare fun a b => a ≤ b
  | "-gt" => compare fun a b => a > b
  | "-ge" => compare fun a b => a ≥ b
  | _ => none

def isBinary (operator : Text) : Bool :=
  ["=", "==", "!=", "<", ">", "-eq", "-ne", "-lt", "-le", "-gt", "-ge"].any (·.toList == operator)

/-- Combinations of any length: first what binds most tightly.  The result is the truth value and
the operands that are left. -/
def testFrom (level : Nat) : (bound : Nat) → List Text → Running (Option (Bool × List Text))
  | 0, _ => return none
  | bound + 1, operands => do
    match level, operands with
    | _, [] => return none
    | 0, _ | 1, _ =>
      match ← testFrom (level + 1) bound operands with
      | some (first, ['-', 'o'] :: others) =>
        if level = 0 then
          match ← testFrom 0 bound others with
          | some (second, others) => return some (first || second, others)
          | none => return none
        else return some (first, ['-', 'o'] :: others)
      | some (first, ['-', 'a'] :: others) =>
        if level = 1 then
          match ← testFrom 1 bound others with
          | some (second, others) => return some (first && second, others)
          | none => return none
        else return some (first, ['-', 'a'] :: others)
      | found => return found
    | _, first :: operator :: second :: others =>
      if isBinary operator then
        return (binary? first operator second).map (·, others)
      else if first = ['!'] then
        return (← testFrom 2 bound (operator :: second :: others)).map fun (holds, others) =>
          (!holds, others)
      else if first = ['('] then
        match ← testFrom 0 bound (operator :: second :: others) with
        | some (holds, [')'] :: others) => return some (holds, others)
        | _ => return none
      else if isUnary first then
        return (← unary? first operator).map (·, second :: others)
      else return some (!first.isEmpty, operator :: second :: others)
    | _, [first, second] =>
      if first = ['!'] then
        return (← testFrom 2 bound [second]).map fun (holds, others) => (!holds, others)
      else if isUnary first then return (← unary? first second).map (·, [])
      else return some (!first.isEmpty, [second])
    | _, [only] => return some (!only.isEmpty, [])

/-- The truth of an expression; short ones are told apart by the number of their operands. -/
def holds? (operands : List Text) : Running (Option Bool) := do
  match operands with
  | [] => return some false
  | [only] => return some (!only.isEmpty)
  | [['!'], operand] => return some operand.isEmpty
  | [operator, operand] => unary? operator operand
  | [first, operator, second] =>
    if isBinary operator then return binary? first operator second else general
  | _ => general
where
  general : Running (Option Bool) := do
    match ← testFrom 0 (4 * operands.length + 8) operands with
    | some (holds, []) => return some holds
    | _ => return none

end Script
end DatagramShell
