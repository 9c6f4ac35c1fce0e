import DatagramShell.Machine.State
import DatagramShell.Machine.Escapes

/-!
# The front of a text

How much `head` shows of each of its inputs, and how much of it is then no longer there for others.
-/

namespace DatagramShell
namespace Script

/-- The first lines, each with its line end; kept in reverse while they are counted. -/
def takeLines (reversed : Text) : (count : Nat) → Text → Text
  | 0, _ => reversed.reverse
  | _ + 1, [] => reversed.reverse
  | count + 1, '\n' :: text => takeLines ('\n' :: reversed) count text
  | count + 1, character :: text => takeLines (character :: reversed) (count + 1) text

inductive Portion where
  | lines (count : Nat)
  | bytes (count : Nat)
  | allButLines (count : Nat)
  | allButBytes (count : Nat)
  deriving DecidableEq, Repr

def countLines (text : Text) : Nat :=
  text.countP (· == '\n')

def Portion.of (portion : Portion) (input : Input) : Text :=
  match portion with
  | .lines count => takeLines [] count input.text
  | .bytes count => input.take count
  | .allButBytes count => input.text.take (input.text.length - count)
  | .allButLines count =>
    let unfinished := input.text.getLast?.any (· != '\n')
    let lines := countLines input.text + if unfinished then 1 else 0
    takeLines [] (lines - count) input.text

/-- A number with the letter of a unit behind it. -/
def sized? (text : Text) : Option Nat :=
  let digits := text.takeWhile Char.isDigit
  let value := digits.foldl (fun total digit => total * 10 + (digit.toNat - 48)) 0
  if digits.isEmpty then none
  else
    match String.ofList (text.drop digits.length) with
    | "" => some value
    | "b" => some (value * 512)
    | "kB" => some (value * 1000)
    | "K" | "KiB" | "k" => some (value * 1024)
    | "MB" => some (value * 1000000)
    | "M" | "MiB" | "m" => some (value * 1048576)
    | _ => none

def portion? (bytes : Bool) (text : Text) : Option Portion :=
  match text with
  | '-' :: text =>
    (sized? text).map fun count => if bytes then .allButBytes count else .allButLines count
  | '+' :: text | text =>
    (sized? text).map fun count => if bytes then .bytes count else .lines count

/-- How much is taken from an input that cannot be wound back: bytes are read one by one, lines in
whole blocks. -/
def blockSize : Nat := 8192

def Portion.consumed (portion : Portion) (shown available : Nat) : Nat :=
  match portion with
  | .bytes _ => shown
  | .lines _ => min available ((shown + blockSize - 1) / blockSize * blockSize)
  | .allButBytes _ | .allButLines _ => available

/-- What `head` is asked to show, and whether names stand above the texts. -/
structure HeadCall where
  portion : Portion := .lines 10
  titled : Option Bool := none
  files : List Text := []
  deriving DecidableEq, Repr

namespace HeadCall

/-- An option in the long form, with a value or without one. -/
def longOption (call : HeadCall) (text : Text) : Option HeadCall :=
  let name := text.takeWhile (· != '=')
  let value := text.drop (name.length + 1)
  match String.ofList name with
  | "--bytes" => (portion? true value).map fun portion => { call with portion }
  | "--lines" => (portion? false value).map fun portion => { call with portion }
  | "--quiet" | "--silent" => some { call with titled := some false }
  | "--verbose" => some { call with titled := some true }
  | _ => none

def ofArguments (call : HeadCall) : List Text → Option HeadCall
  | [] => some call
  | ['-', '-'] :: files => some { call with files := call.files ++ files }
  | ['-', 'c'] :: count :: others =>
    match portion? true count with
    | some portion => ofArguments { call with portion } others
    | none => none
  | ['-', 'n'] :: count :: others =>
    match portion? false count with
    | some portion => ofArguments { call with portion } others
    | none => none
  | ['-', 'q'] :: others => ofArguments { call with titled := some false } others
  | ['-', 'v'] :: others => ofArguments { call with titled := some true } others
  | ('-' :: 'c' :: count) :: others =>
    match portion? true count with
    | some portion => ofArguments { call with portion } others
    | none => none
  | ('-' :: 'n' :: count) :: others =>
    match portion? false count with
    | some portion => ofArguments { call with portion } others
    | none => none
  | ('-' :: '-' :: letters) :: others =>
    match call.longOption ('-' :: '-' :: letters) with
    | some call => ofArguments call others
    | none => none
  | ('-' :: digit :: digits) :: others =>
    if digit.isDigit then
      match portion? false (digit :: digits) with
      | some portion => ofArguments { call with portion } others
      | none => none
    else none
  | file :: others => ofArguments { call with files := call.files ++ [file] } others

/-- Several texts are titled with their names, unless it is asked for otherwise. -/
def isTitled (call : HeadCall) : Bool :=
  call.titled.getD (1 < call.files.length)

end HeadCall

end Script
end DatagramShell
