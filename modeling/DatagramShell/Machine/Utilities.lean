import DatagramShell.Machine.Conditions
import DatagramShell.Machine.Counts
import DatagramShell.Machine.Display
import DatagramShell.Machine.Exchange
import DatagramShell.Machine.Portion

/-!
# Utilities

The programs of the machine other than the shell.  They read the files that they are told, or their
standard input, and write to the standard output; the status tells whether that was possible.
-/

namespace DatagramShell
namespace Script

/-- Writes to the standard output; the status tells whether that was possible. -/
def print (text : Text) : Running Unit := do
  setStatus (if ← emit 1 text then 0 else 1)

/-- What a filter makes of its inputs one by one; the status is 1 if one of them is missing. -/
def filterInputs (paths : List Text) (treat : Text → Input → Running Unit) : Running Unit := do
  let inputs ← operandInputs paths
  inputs.forM fun (path, input?) =>
    match input? with
    | some input => treat path input
    | none => pure ()
  setStatus (if inputs.any (·.2.isNone) then 1 else 0)

def runCat (operands : List Text) : Running Unit := do
  match Display.ofArguments {} operands with
  | none => setStatus 1
  | some (display, paths) =>
    if display = {} then
      filterInputs paths fun _ input => do
        let _ ← emitInput 1 input
    else
      let inputs ← operandInputs paths
      let text := inputs.flatMap fun (_, input?) => (input?.map Input.text).getD []
      let _ ← emit 1 (display.render text)
      setStatus (if inputs.any (·.2.isNone) then 1 else 0)

/-- Shows the front of one input; what `head` has not taken can still be read by others. -/
def showFront (portion : Portion) (path : Text) : Running Bool := do
  match ← if path.isEmpty then readAll 0 else operandInput path with
  | none => return false
  | some input =>
    let shown := portion.of input
    let _ ← emit 1 shown
    if path.isEmpty || path == ['-'] then
      let available := input.text.length
      let consumed :=
        if ← canRewind 0 then min available shown.length
        else portion.consumed (min available shown.length) available
      giveBack 0 (available - consumed)
    return true

def showTitled (portion : Portion) (first : Bool) : List Text → Running Bool
  | [] => return true
  | path :: paths => do
    let isThere := path.isEmpty || path == ['-'] || (← openToRead path).isSome
    if isThere then
      let name := if path.isEmpty || path == ['-'] then "standard input".toList else path
      let title := "==> ".toList ++ name ++ " <==\n".toList
      let _ ← emit 1 (if first then title else '\n' :: title)
    let shown ← showFront portion path
    let others ← showTitled portion (first && !isThere) paths
    return shown && others

def runHead (operands : List Text) : Running Unit := do
  match HeadCall.ofArguments {} operands with
  | none => setStatus 1
  | some call =>
    let paths := if call.files.isEmpty then [[]] else call.files
    let complete ←
      if call.isTitled then showTitled call.portion true paths
      else do
        let shown ← paths.mapM (showFront call.portion)
        pure (shown.all id)
    setStatus (if complete then 0 else 1)

def runCount (operands : List Text) : Running Unit := do
  match CountChoice.ofArguments {} operands with
  | none => setStatus 1
  | some (choice, paths) =>
    let inputs ← operandInputs paths
    let alone := inputs.length == 1
    let counted := inputs.filterMap fun (path, input?) =>
      input?.map fun input => (path, Counts.of input.text)
    counted.forM fun (path, counts) => do
      let name := if paths.isEmpty then none else some path
      let _ ← emit 1 (choice.orAll.line alone counts name)
    if !alone then
      let total := counted.foldl (fun total (_, counts) => total.add counts) {}
      let _ ← emit 1 (choice.orAll.line false total (some "total".toList))
    setStatus (if inputs.any (·.2.isNone) then 1 else 0)

def runExchange (operands : List Text) : Running Unit := do
  match Exchange.ofArguments {} operands with
  | none => setStatus 1
  | some (exchange, sets) =>
    let input := (← readAll 0).getD .empty
    match exchange.apply sets input.text with
    | none => setStatus 1
    | some text =>
      let endless := input.endless.bind fun character =>
        ((exchange.apply sets [character]).getD []).head?
      let written ← emitInput 1 ⟨text, endless⟩
      setStatus (if written then 0 else 1)

/-- The printing command of the shell itself: escapes are resolved, `-n` leaves out the line end. -/
def runEcho (operands : List Text) : Running Unit := do
  let (lineEnd, operands) : Text × List Text :=
    match operands with
    | ['-', 'n'] :: operands => ([], operands)
    | operands => (['\n'], operands)
  let (text, stops) := unescape false ([' '].intercalate operands)
  print (if stops then text else text ++ lineEnd)

/-- The printing program: the options `-n`, `-e` and `-E` may be combined in front. -/
def runEchoProgram (lineEnd resolves : Bool) (operands : List Text) : Running Unit := do
  let finish (operands : List Text) : Running Unit := do
    let text := [' '].intercalate operands
    let (text, stops) := if resolves then unescape true text else (text, false)
    print (if stops || !lineEnd then text else text ++ ['\n'])
  match operands with
  | ('-' :: letters) :: others =>
    if !letters.isEmpty && letters.all fun letter => ['n', 'e', 'E'].contains letter then
      let resolves := letters.foldl (fun resolves letter =>
        if letter = 'e' then true else if letter = 'E' then false else resolves) resolves
      runEchoProgram (lineEnd && !letters.contains 'n') resolves others
    else finish operands
  | _ => finish operands

def printFormatted (format : Text) (arguments : List Text) : Running Unit := do
  let (text, status) := formatted format arguments
  let written ← emit 1 text
  setStatus (if status = 0 ∧ ¬written then 1 else status)

/-- A format that starts with a dash must stand behind two dashes. -/
def runPrintf (operands : List Text) : Running Unit := do
  match operands with
  | ['-', '-'] :: format :: arguments => printFormatted format arguments
  | ('-' :: _ :: _) :: _ => setStatus 2
  | format :: arguments => printFormatted format arguments
  | [] => setStatus 2

def runTest (operands : List Text) : Running Unit := do
  match ← holds? operands with
  | some true => setStatus 0
  | some false => setStatus 1
  | none => setStatus 2

def runBracket (operands : List Text) : Running Unit := do
  match operands.getLast? with
  | some [']'] => runTest operands.dropLast
  | _ => setStatus 2

def runFilter (utility : Utility) (name : Text) (operands : List Text) : Running Unit :=
  match utility with
  | .cat => runCat operands
  | .echo => runEchoProgram true false operands
  | .head => runHead operands
  | .printf => runPrintf operands
  | .test => if name.getLast? = some '[' then runBracket operands else runTest operands
  | .succeed => setStatus 0
  | .fail => setStatus 1
  | .exchange => runExchange operands
  | .count => runCount operands
  | .shell => setStatus 127

end Script
end DatagramShell
