import DatagramShell.Bytes
import DatagramShell.Machine.Files
import DatagramShell.Script.Syntax

/-!
# The state of a running shell

Variables, functions and arguments, the pipes that commands read from and write to, and the table of
descriptors.  Commands run one after the other; a stage of a pipeline has written everything before
the next one reads.
-/

namespace DatagramShell
namespace Script

/-! ## Inputs and pipes -/

/-- What can be read from an input: a text, and a character that follows it without end. -/
structure Input where
  text : Text
  endless : Option Char := none
  deriving DecidableEq, Repr

namespace Input

def empty : Input := ⟨[], none⟩

def append (first second : Input) : Input :=
  match first.endless with
  | some _ => first
  | none => ⟨first.text ++ second.text, second.endless⟩

def take (count : Nat) (input : Input) : Text :=
  let front := input.text.take count
  match input.endless with
  | some character => front ++ List.replicate (count - front.length) character
  | none => front

end Input

/-- What has been written to a pipe, how far it has been read, and a character that is written to it
without end. -/
structure Pipe where
  content : ByteArray := ByteArray.empty
  position : Nat := 0
  endless : Option Char := none
  /-- Whether a reader can go back, as in a file. -/
  rewinds : Bool := false

namespace Pipe

def write (pipe : Pipe) (text : Text) : Pipe :=
  { pipe with
    content := text.foldl (fun bytes character => bytes.push character.toUInt8) pipe.content }

def ofBytes (bytes : Bytes) : Pipe :=
  { content := bytes.foldl ByteArray.push ByteArray.empty }

def bytes (pipe : Pipe) : Bytes :=
  pipe.content.toList

/-- The line that begins at a place, and whether its end is there; what has been seen of it is kept
in reverse. -/
def lineOnto (pipe : Pipe) (reversed : Text) : (bound : Nat) → (place : Nat) → Text × Bool
  | 0, _ => (reversed.reverse, false)
  | bound + 1, place =>
    match pipe.content[place]? with
    | none => (reversed.reverse, false)
    | some byte =>
      if byte = 10 then (reversed.reverse, true)
      else lineOnto pipe (Char.ofNat byte.toNat :: reversed) bound (place + 1)

def unread (pipe : Pipe) : Input where
  text := (pipe.content.toList.drop pipe.position).map fun byte => Char.ofNat byte.toNat
  endless := pipe.endless

end Pipe

inductive Port where
  | pipe (index : Nat)
  | null
  | zeros
  deriving DecidableEq, Repr

structure Shell where
  pipes : Array Pipe
  ports : List (Nat × Port)
  /-- Files written while the shell runs, each kept in a pipe. -/
  files : List (Text × Nat) := []
  bindings : List (Text × Text) := []
  exported : List Text := []
  constants : List Text := []
  functions : List (Text × Command) := []
  /-- The positional parameters, and what stands in front of them. -/
  arguments : List Text := []
  name : Text
  /-- The variables that belong to the running function, with the values they had outside of it. -/
  locals : List (Text × Option Text) := []
  /-- The components of the path of the directory that the shell has gone to. -/
  directory : List String := []
  /-- How many functions are running, one inside the other. -/
  calls : Nat := 0
  /-- How many loops are running, one inside the other. -/
  loops : Nat := 0
  /-- The processes that were started in the background, with their statuses, the last one first. -/
  children : List (Nat × Nat) := []
  /-- The status of the last command. -/
  status : Nat := 0
  /-- The status of the last substituted command, if there was one. -/
  substituted : Option Nat := none
  process : Nat := 1000
  /-- Whether the shell ends at the first command that fails. -/
  endsOnFailure : Bool := false
  /-- Whether unset parameters are an error. -/
  demandsValues : Bool := false
  /-- Whether a failure is being looked at and does not end the shell. -/
  sheltered : Bool := false
  /-- Scripts to run on a signal; the number 0 stands for the end of the shell. -/
  traps : List (Nat × Text) := []

/-- What takes a shell out of the ordinary order of its commands. -/
inductive Jump where
  | leaveLoops (count : Nat)
  | nextRound (count : Nat)
  | returned
  | exited
  | killed (signal : Fin 128)
  deriving DecidableEq, Repr

abbrev Running := ExceptT Jump (StateM Shell)

def setStatus (status : Nat) : Running Unit :=
  modify fun shell => { shell with status }

def leave {α : Type} (status : Nat) : Running α := do
  setStatus status
  throw .exited

/-! ## Descriptors -/

def addPipe (pipe : Pipe) : Running Nat := do
  let index := (← get).pipes.size
  modify fun shell => { shell with pipes := shell.pipes.push pipe }
  return index

def setPort (descriptor : Nat) (port : Port) : Running Unit :=
  modify fun shell =>
    { shell with ports := (descriptor, port) :: shell.ports.filter (·.1 != descriptor) }

def closePort (descriptor : Nat) : Running Unit :=
  modify fun shell => { shell with ports := shell.ports.filter (·.1 != descriptor) }

def portOf (descriptor : Nat) : Running (Option Port) := do
  return (← get).ports.lookup descriptor

/-- Writes to a descriptor; writing to one that is closed fails. -/
def emit (descriptor : Nat) (text : Text) : Running Bool := do
  match ← portOf descriptor with
  | none => return text.isEmpty
  | some (.pipe index) =>
    modify fun shell => { shell with pipes := shell.pipes.modify index (·.write text) }
    return true
  | some _ => return true

/-- Writes to a descriptor what an input holds. -/
def emitInput (descriptor : Nat) (input : Input) : Running Bool := do
  let written ← emit descriptor input.text
  match ← portOf descriptor with
  | some (.pipe index) =>
    if input.endless.isSome then
      modify fun shell =>
        { shell with
          pipes := shell.pipes.modify index fun pipe => { pipe with endless := input.endless } }
  | _ => pure ()
  return written

def readPort (port : Port) : Running Input := do
  match port with
  | .null => return .empty
  | .zeros => return ⟨[], some '\x00'⟩
  | .pipe index =>
    match (← get).pipes[index]? with
    | none => return .empty
    | some pipe =>
      modify fun shell =>
        { shell with
          pipes := shell.pipes.modify index fun pipe =>
            { pipe with position := pipe.content.size } }
      return pipe.unread

def readAll (descriptor : Nat) : Running (Option Input) := do
  match ← portOf descriptor with
  | none => return none
  | some port => return some (← readPort port)

/-- Leaves unread the last characters that were read from a descriptor. -/
def giveBack (descriptor count : Nat) : Running Unit := do
  match ← portOf descriptor with
  | some (.pipe index) =>
    modify fun shell =>
      { shell with
        pipes := shell.pipes.modify index fun pipe =>
          { pipe with position := pipe.position - count } }
  | _ => pure ()

/-- Whether what was read from a descriptor can be read again. -/
def canRewind (descriptor : Nat) : Running Bool := do
  match ← portOf descriptor with
  | some (.pipe index) => return ((← get).pipes[index]?.map Pipe.rewinds).getD false
  | _ => return false

/-- A line from a descriptor, and whether its end was seen. -/
def readLine (descriptor : Nat) : Running (Text × Bool) := do
  match ← portOf descriptor with
  | some (.pipe index) =>
    match (← get).pipes[index]? with
    | none => return ([], false)
    | some pipe =>
      let (line, ended) := pipe.lineOnto [] (pipe.content.size - pipe.position) pipe.position
      let taken := line.length + if ended then 1 else 0
      modify fun shell =>
        { shell with
          pipes := shell.pipes.modify index fun pipe =>
            { pipe with position := pipe.position + taken } }
      return (line, ended)
  | _ => return ([], false)

/-- Runs an action and puts the descriptors back afterwards. -/
def keepingPorts {α : Type} (action : Running α) : Running α := do
  let ports := (← get).ports
  let restore : Running Unit := modify fun shell => { shell with ports }
  let result ← tryCatch action fun jump => do
    restore
    throw jump
  restore
  return result

/-! ## Files -/

def pathText (path : Text) : String :=
  String.ofList path

/-- The number of a descriptor that a path of the kind `/dev/fd/3` names. -/
def descriptorPath? (path : Text) : Option Nat :=
  if path = "/dev/stdin".toList then some 0
  else if path = "/dev/stdout".toList then some 1
  else if path = "/dev/stderr".toList then some 2
  else
    let front := "/dev/fd/".toList
    if front.isPrefixOf path then (String.ofList (path.drop front.length)).toNat? else none

def isWritable (path : Text) : Bool :=
  match path with
  | '/' :: _ => "/tmp/".toList.isPrefixOf path && path.length > 5
  | [] => false
  | _ => !path.contains '/'

def openToRead (path : Text) : Running (Option Port) := do
  match descriptorPath? path with
  | some descriptor => portOf descriptor
  | none =>
    match (← get).files.lookup path with
    | some index =>
      match (← get).pipes[index]? with
      | some file =>
        return some (.pipe (← addPipe { file with position := 0, rewinds := true }))
      | none => return none
    | none =>
      match Files.find (pathText path) with
      | .ok .nullDevice => return some .null
      | .ok .zeroDevice => return some .zeros
      | .ok .plain | .ok (.program _) => return some .null
      | _ => return none

def openToWrite (path : Text) (atEnd : Bool) : Running (Option Port) := do
  match descriptorPath? path with
  | some descriptor => portOf descriptor
  | none =>
    match Files.find (pathText path) with
    | .ok .nullDevice | .ok .zeroDevice => return some .null
    | .ok _ => return none
    | .error _ =>
      match (← get).files.lookup path, atEnd with
      | some index, true => return some (.pipe index)
      | _, _ =>
        if isWritable path then
          let index ← addPipe {}
          modify fun shell =>
            { shell with files := (path, index) :: shell.files.filter (·.1 != path) }
          return some (.pipe index)
        else return none

/-- What a file holds that is named as an operand; a dash names the standard input. -/
def operandInput (path : Text) : Running (Option Input) := do
  if path = ['-'] then readAll 0
  else
    match ← openToRead path with
    | none => return none
    | some port => return some (← readPort port)

/-- The inputs of a filter: its operands one after the other, or else the standard input. -/
def operandInputs (paths : List Text) : Running (List (Text × Option Input)) :=
  match paths with
  | [] => do return [([], ← readAll 0)]
  | paths => paths.mapM fun path => do return (path, ← operandInput path)

/-- Carries out a redirection whose target has been expanded; `false` if that is not possible. -/
def redirect (descriptor : Nat) (kind : RedirectKind) (target : Text) : Running Bool := do
  let lead (port? : Option Port) : Running Bool := do
    match port? with
    | some port =>
      setPort descriptor port
      return true
    | none => return false
  match kind with
  | .read => lead (← openToRead target)
  | .write => lead (← openToWrite target false)
  | .append | .readWrite => lead (← openToWrite target true)
  | .document => lead (some (.pipe (← addPipe (({} : Pipe).write target))))
  | .duplicate =>
    if target = ['-'] then
      closePort descriptor
      return true
    else if !target.isEmpty && target.all Char.isDigit then
      lead (← portOf ((String.ofList target).toNat?.getD 0))
    else return false

/-!
## Contexts

What surrounds commands that run: a loop, a test whose failure does not count, a shell of their own.
Each catches the jumps that are meant for it and restores what it has changed.
-/

/-- One round of a loop: whether the loop goes on after it. -/
def oneRound (round : Running Bool) : Running Bool := do
  let outer := (← get).loops
  let restore : Running Unit := modify fun shell => { shell with loops := outer }
  modify fun shell => { shell with loops := outer + 1 }
  let goesOn ← tryCatch round fun jump => do
    restore
    match jump with
    | .leaveLoops count => if count ≤ 1 then return false else throw (.leaveLoops (count - 1))
    | .nextRound count => if count ≤ 1 then return true else throw (.nextRound (count - 1))
    | jump => throw jump
  restore
  return goesOn

/-- Runs an action whose failure is looked at and does not end the shell. -/
def sheltering (action : Running Unit) : Running Unit := do
  let before := (← get).sheltered
  let restore : Running Unit := modify fun shell => { shell with sheltered := before }
  modify fun shell => { shell with sheltered := true }
  tryCatch action fun jump => do
    restore
    throw jump
  restore

/-- Ends the shell if it is to end at failures and the last command failed. -/
def checkFailure : Running Unit := do
  let shell ← get
  if shell.endsOnFailure && !shell.sheltered && shell.status != 0 then throw .exited

/-- Runs an action in a shell of its own; only what it has written and its status remain.  A signal
that ends that shell is passed on, or counts as its status. -/
def within (enter : Shell → Shell) (passesSignals : Bool) (action : Running Unit) :
    Running Unit := do
  let outer ← get
  set (enter outer)
  let killed? : Option (Fin 128) ← tryCatch (do action; return none) fun
    | .killed signal => return some signal
    | _ => return none
  let inner ← get
  let status :=
    match killed? with
    | some signal => 128 + signal.val
    | none => inner.status
  set { outer with pipes := inner.pipes, files := inner.files, status }
  match killed?, passesSignals with
  | some signal, true => throw (.killed signal)
  | _, _ => return ()

def inSubshell (shell : Shell) : Shell :=
  { shell with traps := [] }

/-- Runs an action up to its end or up to a jump that only a signal is not. -/
def untilEnd (action : Running Unit) : Running Unit :=
  tryCatch action fun
    | .killed signal => throw (.killed signal)
    | _ => return ()

end Script
end DatagramShell
