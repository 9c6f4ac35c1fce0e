import DatagramShell.Script.Arithmetic
import DatagramShell.Machine.State
import DatagramShell.Machine.Fields

/-!
# Commands of the shell itself

Commands that change the shell: its variables, its options, its arguments.  Those that run other
commands are left to the interpreter.  One process can send signals to another, by name or by
number; some of them end a process that has made no provision for them.
-/

namespace DatagramShell
namespace Script

/-!
## Parameters

The variables of a shell, its arguments, and the parameters that tell about the shell itself.
-/

def separators : Running Text := do
  return (lookUp "IFS".toList (← get).bindings).getD [' ', '\t', '\n']

/-- Gives a variable a value; changing a constant ends the shell. -/
def assign (name value : Text) : Running Unit := do
  if (← get).constants.contains name then leave 2
  modify fun shell => { shell with bindings := assignTo name value shell.bindings }

/-- The value of a parameter that is a single text. -/
def parameter? (name : Text) : Running (Option Text) := do
  let shell ← get
  match name with
  | ['#'] => return some (toString shell.arguments.length).toList
  | ['?'] => return some (toString shell.status).toList
  | ['$'] => return some (toString shell.process).toList
  | ['-'] => return some (if shell.endsOnFailure then ['e', 's'] else ['s'])
  | ['!'] => return shell.children.head?.map fun (process, _) => (toString process).toList
  | ['0'] => return some shell.name
  | ['@'] | ['*'] =>
    return if shell.arguments.isEmpty then none else some ([' '].intercalate shell.arguments)
  | _ =>
    if name.all Char.isDigit then
      match (String.ofList name).toNat? with
      | some place => return shell.arguments[place - 1]?
      | none => return none
    else return lookUp name shell.bindings

/-- All arguments: apart from each other, or quoted with the first separator between them. -/
def argumentSegments (together quoted : Bool) : Running (List Segment) := do
  let arguments := (← get).arguments
  if together && quoted then
    if arguments.isEmpty then return [.piece [] true false]
    let between := ((← separators).take 1)
    return [.piece (between.intercalate arguments) true false]
  else
    return (arguments.map fun argument => [Segment.piece argument quoted (!quoted)]).intersperse
      [.boundary] |>.flatten

/-! ## Signals -/

def signalNames : List (String × Nat) :=
  [("EXIT", 0), ("HUP", 1), ("INT", 2), ("QUIT", 3), ("ILL", 4), ("TRAP", 5), ("ABRT", 6),
    ("BUS", 7), ("FPE", 8), ("KILL", 9), ("USR1", 10), ("SEGV", 11), ("USR2", 12), ("PIPE", 13),
    ("ALRM", 14), ("TERM", 15), ("STKFLT", 16), ("CHLD", 17), ("CONT", 18), ("STOP", 19),
    ("TSTP", 20), ("TTIN", 21), ("TTOU", 22), ("URG", 23), ("XCPU", 24), ("XFSZ", 25),
    ("VTALRM", 26), ("PROF", 27), ("WINCH", 28), ("IO", 29), ("PWR", 30), ("SYS", 31)]

def signal? (text : Text) : Option Nat :=
  if !text.isEmpty && text.all Char.isDigit then
    (String.ofList text).toNat?.filter (· < 65)
  else
    let name := String.ofList (text.map Char.toUpper)
    signalNames.lookup name

/-- Signals that do nothing, or only stop or continue a process, unless it provides for them. -/
def isHarmless (signal : Nat) : Bool :=
  [0, 17, 18, 19, 20, 21, 22, 23, 28].contains signal

/-! ## Builtins -/

/-- Commands whose failure ends the shell, and whose assignments last. -/
def isSpecialBuiltin (name : Text) : Bool :=
  [".", ":", "break", "continue", "eval", "exec", "exit", "export", "readonly", "return", "set",
    "shift", "times", "trap", "unset"].any (·.toList == name)

def isOrdinaryBuiltin (name : Text) : Bool :=
  ["echo", "printf", "test", "[", "true", "false", "kill", "read", "cd", "pwd", "local", "command",
    "type", "wait", "umask", "alias", "hash", "jobs"].any (·.toList == name)

/-- A number that a command takes as an operand: it fits in 31 bits, and blanks may stand around
it. -/
def number? (text : Text) : Option Nat :=
  let isBlank (character : Char) : Bool := isInClass "space".toList character
  let text := ((text.dropWhile isBlank).reverse.dropWhile isBlank).reverse
  let digits :=
    match text with
    | '+' :: digits => digits
    | digits => digits
  if digits.isEmpty then none else (digitsValue? 10 digits).filter (· ≤ 2147483647)

def splitAssignment (text : Text) : Text × Option Text :=
  let name := text.takeWhile (· != '=')
  (name, if name.length < text.length then some (text.drop (name.length + 1)) else none)

/-- Marks variables, after giving those a value for which one is given. -/
def declare (mark : Text → Shell → Shell) (operands : List Text) : Running Unit := do
  operands.forM fun operand => do
    let (name, value?) := splitAssignment operand
    if !isName name then leave 2
    match value? with
    | some value => assign name value
    | none => pure ()
    modify (mark name)
  setStatus 0

/-- How many functions may be running, one inside the other. -/
def callLimit : Nat := 1000

/-- Makes variables belong to the running function. -/
def declareLocals (operands : List Text) : Running Unit := do
  if (← get).calls = 0 then leave 2
  operands.forM fun operand => do
    let (name, value?) := splitAssignment operand
    if !isName name then leave 2
    modify fun shell =>
      { shell with locals := (name, lookUp name shell.bindings) :: shell.locals }
    match value? with
    | some value => assign name value
    | none => pure ()
  setStatus 0

def restoreVariables (earlier : List (Text × Option Text)) (shell : Shell) : Shell :=
  let bindings := earlier.foldl (fun bindings (name, value?) =>
    match value? with
    | some value => assignTo name value bindings
    | none => bindings.filter (·.1 != name)) shell.bindings
  { shell with bindings }

def unset : List Text → Running Unit
  | [] => setStatus 0
  | ['-', 'v'] :: names => unset names
  | ['-', 'f'] :: names => do
    modify fun shell =>
      { shell with functions := shell.functions.filter fun (name, _) => !names.contains name }
    setStatus 0
  | name :: names => do
    if (← get).constants.contains name then leave 2
    modify fun shell => { shell with bindings := shell.bindings.filter (·.1 != name) }
    unset names

/-- Switches options by their letters; unknown ones have no effect. -/
def switchOptions (on : Bool) (letters : Text) (shell : Shell) : Shell :=
  letters.foldl (fun shell letter =>
    if letter = 'e' then { shell with endsOnFailure := on }
    else if letter = 'u' then { shell with demandsValues := on }
    else shell) shell

def optionLetter (name : Text) : Text :=
  match String.ofList name with
  | "errexit" => ['e']
  | "nounset" => ['u']
  | _ => []

def runSet : List Text → Running Unit
  | [] => setStatus 0
  | ['-', '-'] :: arguments => do
    modify fun shell => { shell with arguments }
    setStatus 0
  | ['-', 'o'] :: name :: operands => do
    modify (switchOptions true (optionLetter name))
    runSet operands
  | ['+', 'o'] :: name :: operands => do
    modify (switchOptions false (optionLetter name))
    runSet operands
  | ('-' :: letter :: letters) :: operands => do
    modify (switchOptions true (letter :: letters))
    runSet operands
  | ('+' :: letter :: letters) :: operands => do
    modify (switchOptions false (letter :: letters))
    runSet operands
  | arguments => do
    modify fun shell => { shell with arguments }
    setStatus 0

def runShift (operands : List Text) : Running Unit := do
  let count? :=
    match operands with
    | [] => some 1
    | count :: _ => number? count
  match count? with
  | some count =>
    if (← get).arguments.length < count then leave 2
    modify fun shell => { shell with arguments := shell.arguments.drop count }
    setStatus 0
  | none => leave 2

/-- A row of backslashed characters in a line that is read, and those that may end a field. -/
def markRead : Text → List Marked
  | '\\' :: character :: text => (character, true) :: markRead text
  | character :: text => (character, false) :: markRead text
  | [] => []

/-- Gives each name a field of the line, and the last name everything that is left. -/
def assignFields (separators : Text) : List Text → List Marked → Running Unit
  | [], _ => pure ()
  | [name], line =>
    let blank (marked : Marked) : Bool :=
      !marked.2 && Segment.isSpace marked.1 && separators.contains marked.1
    let line := line.dropWhile blank
    assign name (((line.reverse.dropWhile blank).reverse).map (·.1))
  | name :: names, line => do
    let separates (marked : Marked) : Bool := !marked.2 && separators.contains marked.1
    let blank (marked : Marked) : Bool := separates marked && Segment.isSpace marked.1
    let line := line.dropWhile blank
    assign name ((line.takeWhile fun marked => !separates marked).map (·.1))
    let behind := (line.dropWhile fun marked => !separates marked).dropWhile blank
    let behind :=
      match behind with
      | marked :: others =>
        if separates marked && !Segment.isSpace marked.1 then others.dropWhile blank else behind
      | [] => []
    assignFields separators names behind

/-- Reads a line; outside raw reading, a backslash at its end joins the next one to it. -/
def readJoined (raw : Bool) : (bound : Nat) → Running (Text × Bool)
  | 0 => readLine 0
  | bound + 1 => do
    let (line, ended) ← readLine 0
    let slashes := (line.reverse.takeWhile (· == '\\')).length
    if !raw && ended && slashes % 2 == 1 then
      let (others, ended) ← readJoined raw bound
      return (line.dropLast ++ others, ended)
    else return (line, ended)

def runRead (raw : Bool) : List Text → Running Unit
  | ['-', 'r'] :: names => runRead true names
  | names => do
    let (line, ended) ← readJoined raw 1000
    let marked := if raw then line.map (·, false) else markRead line
    let names := if names.isEmpty then ["REPLY".toList] else names
    assignFields (← separators) names marked
    setStatus (if ended then 0 else 1)

def killArguments : List Text → Option (Nat × List Text)
  | ['-', 's'] :: name :: ['-', '-'] :: processes | ['-', 's'] :: name :: processes =>
    (signal? name).map (·, processes)
  | ['-', '-'] :: processes => some (15, processes)
  | ('-' :: name) :: processes => (signal? name).map (·, processes)
  | processes => some (15, processes)

/-- The name of a signal, which may be given by the status of a process that it has ended. -/
def signalName? (operand : Text) : Option String := do
  let number ← number? operand
  let signal := if 128 < number then number - 128 else number
  signalNames.findSome? fun (name, other) => if other = signal then some name else none

/-- How many of the running loops a loop-leaving command counts. -/
def loopCount (operands : List Text) : Running Nat := do
  let loops := (← get).loops
  match operands with
  | [] => return min 1 loops
  | count :: _ =>
    match number? count with
    | some count => if count = 0 then leave 2 else return min count loops
    | none => leave 2

/-!
## Calling a shell

What a shell makes of its arguments: where its script comes from, what it is called, and which
options are on.
-/

/-- The options of a shell that are single letters. -/
def shellLetters : Text :=
  "aCefnuvxIimVEbscl".toList

/-- How a shell was called: its script, or `none` for one that comes from the standard input. -/
structure ShellCall where
  script : Option Text := none
  file : Option Text := none
  letters : Text := []
  name : Text
  arguments : List Text := []

/-- The operands of a shell that was called with or without `-c` and `-s`. -/
def ShellCall.withOperands (call : ShellCall) (fromText fromInput : Bool) (operands : List Text) :
    Option ShellCall :=
  if fromText then
    match operands with
    | [] => none
    | [script] => some { call with script := some script }
    | script :: name :: arguments => some { call with script := some script, name, arguments }
  else if fromInput then some { call with arguments := operands }
  else
    match operands with
    | [] => some call
    | file :: arguments => some { call with file := some file, name := file, arguments }

def ShellCall.ofArguments (call : ShellCall) (fromText fromInput : Bool) :
    List Text → Option ShellCall
  | ['-', '-'] :: operands | ['-'] :: operands => call.withOperands fromText fromInput operands
  | ['-', 'o'] :: name :: operands =>
    ofArguments { call with letters := call.letters ++ optionLetter name } fromText fromInput
      operands
  | ('-' :: letter :: letters) :: operands =>
    let all := letter :: letters
    if all.all shellLetters.contains then
      ofArguments { call with letters := call.letters ++ all } (fromText || all.contains 'c')
        (fromInput || all.contains 's') operands
    else none
  | ('+' :: _ :: _) :: operands => ofArguments call fromText fromInput operands
  | operands => call.withOperands fromText fromInput operands

def scriptText (input : Input) : Text :=
  input.text.filter (· != '\x00')

end Script
end DatagramShell
