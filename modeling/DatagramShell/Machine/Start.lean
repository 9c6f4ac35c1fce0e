import DatagramShell.Machine.Interpreter
import DatagramShell.Process.Execution

/-!
# Starting programs

A program is started with its arguments and everything that will be written to its standard input.
It runs to its end, and what it has written to its two output streams is read from their pipes.
-/

namespace DatagramShell
namespace Machine

open Script

/-- Bounds the depth of recursion, and with it the rounds of a loop. -/
def depth : Nat := 10000000

def textOfBytes (bytes : Bytes) : Text :=
  bytes.map fun byte => Char.ofNat byte.toNat

/-- Arguments reach a program as bytes. -/
def argumentText (argument : String) : Text :=
  textOfBytes (Bytes.ofString argument)

/-- A program before its first step: its input and output are connected to three pipes. -/
def fresh (stdin : Bytes) : Shell where
  pipes := #[Pipe.ofBytes stdin, {}, {}]
  ports := [(0, .pipe 0), (1, .pipe 1), (2, .pipe 2)]
  name := []

def runUtility (utility : Utility) (name : Text) (operands : List Text) : Running Unit :=
  match utility with
  | .shell =>
    match ShellCall.ofArguments { name } false false operands with
    | none => setStatus 2
    | some call => do
      modify fun shell => { shell with name := call.name, arguments := call.arguments }
      runShell call depth
  | utility => runFilter utility name operands

/-- How many bytes one read brings at most. -/
def readSize : Nat := 1024

/-- What a pipe has taken up, read piece by piece; the bound is larger than the number of pieces. -/
def readsOnto (reversed : List Bytes) : (bound : Nat) → Bytes → List Bytes
  | 0, _ => reversed.reverse
  | bound + 1, bytes =>
    if bytes.isEmpty then reversed.reverse
    else readsOnto (bytes.take readSize :: reversed) bound (bytes.drop readSize)

def readsOf (shell : Shell) (index : Nat) : Reads :=
  let bytes := (shell.pipes[index]?.map Pipe.bytes).getD []
  (readsOnto [] (bytes.length + 1) bytes).map .ok

def outcome (utility : Utility) (name : Text) (operands : List Text) (stdin : Bytes) : Outcome :=
  let (result, shell) := (runUtility utility name operands).run.run (fresh stdin)
  { stdin := .ok ()
    stdout := readsOf shell 1
    stderr := readsOf shell 2
    ending :=
      match result with
      | .error (.killed signal) => .ok (.signaled signal)
      | _ => .ok (.exited (UInt8.ofNat shell.status)) }

/-- Starts a program, if there is one of that name. -/
def start : Launcher := fun program arguments stdin =>
  (Files.resolve program).map fun utility =>
    outcome utility (argumentText program) (arguments.map argumentText) stdin

end Machine

/-- Runs command lines on the machine whose programs are known here. -/
def ShellConfig.runner (shell : ShellConfig) : Runner :=
  shell.runnerOn Machine.start

end DatagramShell
