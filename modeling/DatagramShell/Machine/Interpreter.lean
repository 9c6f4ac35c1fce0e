import DatagramShell.Machine.Utilities
import DatagramShell.Machine.Builtins

/-!
# Running scripts

Commands change the state of the shell and leave a status.  Whatever takes a shell out of the
ordinary order, from `break` to the end by a signal, is a jump that the construct it is meant for
catches.  The last argument of the mutually recursive functions bounds the depth of their recursion,
in which each round of a loop counts as one level.
-/

namespace DatagramShell
namespace Script

mutual

def expand (inner : Bool) (word : Word) : Nat → Running (List Segment)
  | 0 => leave 2
  | bound + 1 => do
    return (← word.mapM fun part => expandPart inner part bound).flatten

/-- The pieces of one part; `inner` says that it stands inside an unquoted expansion. -/
def expandPart (inner : Bool) (part : Part) : Nat → Running (List Segment)
  | 0 => leave 2
  | bound + 1 => do
    match part with
    | .literal text quoted => return [.piece text quoted (inner && !quoted)]
    | .command body quoted =>
      return [.piece (← substitute body bound) quoted (!quoted)]
    | .arithmetic expression quoted =>
      let text := Segment.joined (← expand false expression bound)
      match Expression.ofText? text with
      | none => leave 2
      | some expression =>
        match expression.evaluate.run (← get).bindings with
        | none => leave 2
        | some (value, bindings) =>
          modify fun shell => { shell with bindings }
          return [.piece (numberText value) quoted (!quoted)]
    | .parameter name modifier word quoted =>
      let isList := name = ['@'] || name = ['*']
      let value? ← parameter? name
      let isEmpty := (value?.getD []).isEmpty
      let plain : Running (List Segment) := do
        if isList then argumentSegments (name = ['*']) quoted
        else return [.piece (value?.getD []) quoted (!quoted)]
      let instead : Running (List Segment) := do
        let segments ← expand (!quoted) word bound
        return if quoted && segments.isEmpty then [.piece [] true false] else segments
      let missing (orEmpty : Bool) : Bool := value?.isNone || (orEmpty && isEmpty)
      match modifier with
      | .value =>
        if value?.isNone && !isList && (← get).demandsValues then leave 2
        plain
      | .length =>
        let arguments := (← get).arguments
        let length := if isList then arguments.length else (value?.getD []).length
        return [.piece (toString length).toList quoted (!quoted)]
      | .default orEmpty => if missing orEmpty then instead else plain
      | .alternative orEmpty =>
        if missing orEmpty then return (if quoted then [.piece [] true false] else [])
        else instead
      | .assign orEmpty =>
        if missing orEmpty then
          if !isName name then leave 2
          let value := Segment.joined (← expand false word bound)
          assign name value
          return [.piece value quoted (!quoted)]
        else plain
      | .demand orEmpty => if missing orEmpty then leave 2 else plain
      | .trimFront longest =>
        let pattern := Glob.ofPattern (Segment.pattern (← expand false word bound))
        return [.piece (Glob.trimFront longest pattern (value?.getD [])) quoted (!quoted)]
      | .trimBack longest =>
        let pattern := Glob.ofPattern (Segment.pattern (← expand false word bound))
        return [.piece (Glob.trimBack longest pattern (value?.getD [])) quoted (!quoted)]

/-- What commands write to their standard output, without line ends behind it. -/
def substitute (body : List Command) : Nat → Running Text
  | 0 => leave 2
  | bound + 1 => do
    let before := (← get).status
    let index ← addPipe {}
    within (fun shell =>
        { inSubshell shell with
          ports := (1, .pipe index) :: shell.ports.filter (·.1 != 1) }) true
      (do untilEnd (runAll body bound); finish bound)
    modify fun shell => { shell with substituted := some shell.status, status := before }
    let written := ((← get).pipes[index]?.map Pipe.unread).getD .empty
    let text := written.text.filter (· != '\x00')
    return (text.reverse.dropWhile (· == '\n')).reverse

def expandWords (words : List Word) : Nat → Running (List Text)
  | 0 => leave 2
  | bound + 1 => do
    let fields ← words.mapM fun word => do
      let segments ← expand false word bound
      return fieldsOf (← separators) segments
    return fields.flatten

def runAll (commands : List Command) : Nat → Running Unit
  | 0 => leave 2
  | bound + 1 =>
    match commands with
    | [] => pure ()
    | [command] => run command bound
    | command :: commands => do
      run command bound
      runAll commands bound

def applyRedirects (redirects : List Redirect) : Nat → Running Bool
  | 0 => leave 2
  | bound + 1 =>
    match redirects with
    | [] => return true
    | .mk descriptor kind target :: redirects => do
      let text := Segment.joined (← expand false target bound)
      if ← redirect descriptor kind text then applyRedirects redirects bound else return false

def redirecting (redirects : List Redirect) (action : Running Unit) (failing : Running Unit) :
    Nat → Running Unit
  | 0 => leave 2
  | bound + 1 => keepingPorts do
    if ← applyRedirects redirects bound then action else failing

def run (command : Command) : Nat → Running Unit
  | 0 => leave 2
  | bound + 1 => do
    match command with
    | .simple assignments words redirects =>
      runSimple assignments words redirects bound
      checkFailure
    | .redirected body redirects =>
      redirecting redirects (run body bound) (setStatus 2) bound
    | .pipeline stages =>
      runStages (← get).status (← portOf 0) stages bound
      checkFailure
    | .negated body =>
      sheltering (run body bound)
      setStatus (if (← get).status = 0 then 1 else 0)
    | .both first second =>
      sheltering (run first bound)
      if (← get).status = 0 then run second bound
    | .either first second =>
      sheltering (run first bound)
      if (← get).status != 0 then run second bound
    | .background body =>
      within (fun shell =>
          { inSubshell shell with ports := (0, .null) :: shell.ports.filter (·.1 != 0) })
        true (do untilEnd (run body bound); finish bound)
      modify fun shell =>
        { shell with
          status := 0
          children :=
            (shell.process + 1 + shell.children.length, shell.status) :: shell.children }
    | .group body => runAll body bound
    | .subshell body =>
      within inSubshell true (do untilEnd (runAll body bound); finish bound)
      checkFailure
    | .branch condition body otherwise =>
      sheltering (runAll condition bound)
      if (← get).status = 0 then runAll body bound
      else if otherwise.isEmpty then setStatus 0
      else runAll otherwise bound
    | .loop whileFailing condition body => runLoop whileFailing condition body 0 bound
    | .each name words? body =>
      let values ←
        match words? with
        | some words => expandWords words bound
        | none => pure (← get).arguments
      if values.isEmpty then setStatus 0
      runEach name values body bound
    | .choose subject clauses =>
      let text := Segment.joined (← expand false subject bound)
      runClauses text clauses bound
    | .define name body =>
      modify fun shell =>
        { shell with functions := (name, body) :: shell.functions.filter (·.1 != name) }
      setStatus 0

/-- The stages of a pipeline; each writes to a pipe that the next one reads.  All of them see the
same last status. -/
def runStages (status : Nat) (input : Option Port) (stages : List Command) : Nat → Running Unit
  | 0 => leave 2
  | bound + 1 => do
    let reading (ports : List (Nat × Port)) : List (Nat × Port) :=
      match input with
      | some port => (0, port) :: ports.filter (·.1 != 0)
      | none => ports.filter (·.1 != 0)
    match stages with
    | [] => pure ()
    | [last] =>
      within (fun shell => { inSubshell shell with status, ports := reading shell.ports }) true
        (do untilEnd (run last bound); finish bound)
    | stage :: stages =>
      let index ← addPipe {}
      within (fun shell =>
          { inSubshell shell with
            status
            ports := (1, .pipe index) :: (reading shell.ports).filter (·.1 != 1) })
        true (do untilEnd (run stage bound); finish bound)
      runStages status (some (.pipe index)) stages bound

def runLoop (whileFailing : Bool) (condition body : List Command) (status : Nat) :
    Nat → Running Unit
  | 0 => leave 2
  | bound + 1 => do
    let goesOn ← oneRound do
      sheltering (runAll condition bound)
      if ((← get).status = 0) != whileFailing then
        runAll body bound
        return true
      else
        setStatus status
        return false
    if goesOn then runLoop whileFailing condition body (← get).status bound

def runEach (name : Text) (values : List Text) (body : List Command) : Nat → Running Unit
  | 0 => leave 2
  | bound + 1 =>
    match values with
    | [] => pure ()
    | value :: values => do
      let goesOn ← oneRound do
        assign name value
        runAll body bound
        return true
      if goesOn then runEach name values body bound

/-- The first clause with a pattern that stands for the text. -/
def runClauses (text : Text) (clauses : List (List Word × List Command)) : Nat → Running Unit
  | 0 => leave 2
  | bound + 1 =>
    match clauses with
    | [] => setStatus 0
    | (patterns, body) :: clauses => do
      let fits ← patterns.anyM fun pattern => do
        let segments ← expand false pattern bound
        return Glob.matchesAll (Glob.ofPattern (Segment.pattern segments)) text
      if !fits then runClauses text clauses bound
      else if body.isEmpty then setStatus 0
      else runAll body bound

def assignAll (assignments : List (Text × Word)) : Nat → Running (List Text)
  | 0 => leave 2
  | bound + 1 =>
    assignments.mapM fun (name, word) => do
      assign name (Segment.joined (← expand false word bound))
      return name

def runSimple (assignments : List (Text × Word)) (words : List Word) (redirects : List Redirect) :
    Nat → Running Unit
  | 0 => leave 2
  | bound + 1 => do
    modify fun shell => { shell with substituted := none }
    match ← expandWords words bound with
    | [] =>
      redirecting redirects
        (do
          let _ ← assignAll assignments bound
          setStatus ((← get).substituted.getD 0))
        (setStatus 2) bound
    | name :: operands =>
      if name = "exec".toList then
        if ← applyRedirects redirects bound then
          let _ ← assignAll assignments bound
          match operands with
          | [] => setStatus 0
          | name :: operands =>
            runProgram name operands bound
            throw .exited
        else leave 2
      else if isSpecialBuiltin name then
        redirecting redirects
          (do
            let _ ← assignAll assignments bound
            runSpecial name operands bound)
          (leave 2) bound
      else
        let outer ← get
        redirecting redirects
          (do
            let names ← assignAll assignments bound
            modify fun shell => { shell with exported := names ++ shell.exported }
            runNamed name operands bound)
          (setStatus 2) bound
        if !assignments.isEmpty then
          modify fun shell =>
            { restoreVariables (assignments.map fun (name, _) => (name, lookUp name outer.bindings))
                shell with exported := outer.exported }

/-- A function, a command of the shell itself or a program. -/
def runNamed (name : Text) (operands : List Text) : Nat → Running Unit
  | 0 => leave 2
  | bound + 1 => do
    match (← get).functions.find? (·.1 == name) with
    | some (_, body) => runFunction body operands bound
    | none =>
      if isOrdinaryBuiltin name then runOrdinary name operands bound
      else runProgram name operands bound

def runFunction (body : Command) (arguments : List Text) : Nat → Running Unit
  | 0 => leave 2
  | bound + 1 => do
    let outer ← get
    let restore : Running Unit := modify fun shell =>
      { restoreVariables shell.locals shell with
        arguments := outer.arguments
        locals := outer.locals
        loops := outer.loops
        calls := outer.calls }
    if callLimit ≤ outer.calls then leave 2
    modify fun shell => { shell with arguments, locals := [], loops := 0, calls := outer.calls + 1 }
    tryCatch (run body bound) fun
      | .returned => return ()
      | jump => do
        restore
        throw jump
    restore

def runProgram (name : Text) (operands : List Text) : Nat → Running Unit
  | 0 => leave 2
  | bound + 1 => do
    match Files.resolve (pathText name) with
    | .error .permissionDenied => setStatus 126
    | .error _ => setStatus 127
    | .ok .shell => callShell name operands bound
    | .ok utility =>
      within inSubshell true (runFilter utility name operands)

/-- A shell started by a shell: it has its own state, of which exported variables are the start. -/
def callShell (name : Text) (operands : List Text) : Nat → Running Unit
  | 0 => leave 2
  | bound + 1 => do
    match ShellCall.ofArguments { name } false false operands with
    | none => setStatus 2
    | some call =>
      within (fun shell =>
          { pipes := shell.pipes
            ports := shell.ports
            files := shell.files
            bindings := shell.bindings.filter fun (name, _) => shell.exported.contains name
            exported := shell.exported
            name := call.name
            arguments := call.arguments
            process := shell.process + 1 })
        false (runShell call bound)

def runShell (call : ShellCall) : Nat → Running Unit
  | 0 => leave 2
  | bound + 1 => do
    modify (switchOptions true call.letters)
    let script? : Option Text ←
      match call.script, call.file with
      | some script, _ => pure (some script)
      | none, none => do
        let input := (← readAll 0).getD .empty
        pure (some (scriptText input))
      | none, some file => do
        match ← operandInput file with
        | some input => pure (some (scriptText input))
        | none => pure none
    match script? with
    | none => setStatus 2
    | some script =>
      untilEnd (runScript script bound)
      finish bound

/-- Runs a script unit by unit, up to a fault. -/
def runScript (script : Text) : Nat → Running Unit
  | 0 => leave 2
  | bound + 1 => do
    let program := Program.ofText script
    runAll (program.units.map .group) bound
    if program.faulty then leave 2

/-- What a shell has been told to do at its end. -/
def finish : Nat → Running Unit
  | 0 => leave 2
  | bound + 1 => do
    let shell ← get
    match shell.traps.lookup 0 with
    | none => return ()
    | some script =>
      let status := shell.status
      set { shell with traps := shell.traps.filter (·.1 != 0) }
      runScript script bound
      setStatus status

def runSpecial (name : Text) (operands : List Text) : Nat → Running Unit
  | 0 => leave 2
  | bound + 1 => do
    match String.ofList name with
    | "." =>
      match operands with
      | [] => setStatus 0
      | file :: _ =>
        match ← if file.contains '/' then operandInput file else pure none with
        | some input =>
          setStatus 0
          runScript (scriptText input) bound
        | none => leave 2
    | "break" =>
      let count ← loopCount operands
      setStatus 0
      if 0 < count then throw (.leaveLoops count)
    | "continue" =>
      let count ← loopCount operands
      setStatus 0
      if 0 < count then throw (.nextRound count)
    | "eval" =>
      if operands.all List.isEmpty then setStatus 0
      runScript ([' '].intercalate operands) bound
    | "exit" =>
      match operands with
      | [] => throw .exited
      | status :: _ =>
        match number? status with
        | some status => leave (status % 256)
        | none => leave 2
    | "return" =>
      match operands with
      | [] => throw .returned
      | status :: _ =>
        match number? status with
        | some status =>
          setStatus status
          throw .returned
        | none => leave 2
    | "export" =>
      declare (fun name shell => { shell with exported := name :: shell.exported })
        (operands.filter (· != ['-', 'p']))
    | "readonly" =>
      declare (fun name shell => { shell with constants := name :: shell.constants })
        (operands.filter (· != ['-', 'p']))
    | "set" => runSet operands
    | "shift" => runShift operands
    | "unset" => unset operands
    | "trap" =>
      match operands with
      | [] => setStatus 0
      | [signal] =>
        let number? := signal? signal
        modify fun shell =>
          { shell with traps := shell.traps.filter fun (other, _) => some other != number? }
        setStatus 0
      | action :: signals =>
        let numbers := signals.filterMap signal?
        modify fun shell =>
          let kept := shell.traps.filter fun (other, _) => !numbers.contains other
          { shell with
            traps := if action = ['-'] then kept else numbers.map (·, action) ++ kept }
        setStatus (if numbers.length = signals.length then 0 else 1)
    | _ => setStatus 0

def runOrdinary (name : Text) (operands : List Text) : Nat → Running Unit
  | 0 => leave 2
  | bound + 1 => do
    match String.ofList name with
    | "echo" => runEcho operands
    | "printf" => runPrintf operands
    | "test" => runTest operands
    | "[" => runBracket operands
    | "false" => setStatus 1
    | "read" => runRead false operands
    | "local" => declareLocals operands
    | "type" =>
      let known (name : Text) : Running Bool := do
        return isOrdinaryBuiltin name || isSpecialBuiltin name ||
          (← get).functions.any (·.1 == name) || (Files.resolve (pathText name)).isOk
      setStatus (if ← operands.allM known then 0 else 127)
    | "wait" =>
      let children := (← get).children
      let status (operand : Text) : Nat :=
        ((number? operand).bind fun process => children.lookup process).getD 127
      setStatus ((operands.getLast?.map status).getD 0)
    | "cd" =>
      match operands with
      | [] => setStatus 0
      | path :: _ =>
        if (← factsOf path).isDirectory then
          let target := Files.components (pathText path)
          if path.head? = some '/' then
            modify fun shell => { shell with directory := Files.simplified target }
          setStatus 0
        else setStatus 2
    | "pwd" => print (('/' :: (String.intercalate "/" (← get).directory).toList) ++ ['\n'])
    | "command" =>
      match operands with
      | ['-', 'v'] :: name :: _ =>
        let known := isOrdinaryBuiltin name || isSpecialBuiltin name ||
          ((← get).functions.any (·.1 == name))
        if known then print (name ++ ['\n'])
        else
          match Files.resolve (pathText name) with
          | .ok _ => print ("/usr/bin/".toList ++ name ++ ['\n'])
          | .error _ => setStatus 127
      | name :: operands =>
        if isSpecialBuiltin name then runSpecial name operands bound
        else if isOrdinaryBuiltin name then runOrdinary name operands bound
        else runProgram name operands bound
      | [] => setStatus 0
    | "kill" =>
      match operands with
      | ['-', 'l'] :: signal :: _ =>
        match signalName? signal with
        | some name => print (name.toList ++ ['\n'])
        | none => setStatus 2
      | operands =>
        match killArguments operands with
        | none => setStatus 2
        | some (signal, processes) => sendSignal signal processes bound
    | _ => setStatus 0

/-- Sends a signal to processes; the only one that can be reached is the shell itself. -/
def sendSignal (signal : Nat) (processes : List Text) : Nat → Running Unit
  | 0 => leave 2
  | bound + 1 => do
    let own := (toString (← get).process).toList
    if processes.isEmpty then setStatus 2
    else if !processes.all (· == own) then setStatus 1
    else
      setStatus 0
      match (← get).traps.lookup signal with
      | some script =>
        if signal = 9 then throw (.killed 9)
        else if signal != 0 then
          runScript script bound
          setStatus 0
      | none =>
        if !isHarmless signal then
          throw (.killed (Fin.ofNat 128 signal))

end

end Script
end DatagramShell
