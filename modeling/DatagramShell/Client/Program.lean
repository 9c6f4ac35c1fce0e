import DatagramShell.Client.Options
import DatagramShell.Client.Exchange

/-!
# The client as a program

The client passes the output of the remote command on and ends with its code, as far as a process
can.  A command that was not launched, and a client that fails, end with the status 1.  A client
also fails if it cannot write the output; only where it cannot even say what the service has replied
does it end with a status of its own.
-/

namespace DatagramShell

/-- How the outputs of a program take what is written to them. -/
structure Console where
  stdout : Except SystemError Unit
  stderr : Except SystemError Unit

namespace Console

def working : Console where
  stdout := .ok ()
  stderr := .ok ()

/-- Writing nothing does not fail. -/
def write (outlet : Except SystemError Unit) (bytes : Bytes) : Except SystemError Unit :=
  if bytes = [] then .ok () else outlet

/-- What a program says that ends with a failure; if this cannot be written it is left unsaid. -/
def lastWords (console : Console) (failure : Failure) : Bytes :=
  match console.stderr with
  | .ok () => Bytes.ofString failure.report
  | .error _ => []

end Console

/-- What can be seen of a client that is started as a program.  The text that explains the usage or
the options is left out. -/
structure ClientRun where
  exitStatus : Nat
  sent : List Bytes
  /-- What is written to the standard output and to the standard error. -/
  output : Option (Bytes × Bytes)
  deriving DecidableEq, Repr

namespace ClientRun

/-- The status of a process is a number up to 255. -/
def clampStatus (code : Int32) : Nat :=
  min code.toInt.toNat 255

/-- The status of a program that is broken off because it cannot write to its standard error. -/
def abortedStatus : Nat := 101

def ofFailure (console : Console) (sent : List Bytes) (failure : Failure) : ClientRun :=
  ⟨1, sent, some ([], console.lastWords failure)⟩

/-- Shows a report: its output first, then, if the command was not acknowledged, the status. -/
def ofReport (console : Console) (sent : List Bytes) (report : Report) : ClientRun :=
  match Console.write console.stdout report.stdout with
  | .error cause => ofFailure console sent ⟨cause.message, []⟩
  | .ok () =>
    match Console.write console.stderr report.stderr with
    | .error _ => ⟨1, sent, some (report.stdout, [])⟩
    | .ok () =>
      if report.status = .ackOk then
        ⟨clampStatus report.exitCode, sent, some (report.stdout, report.stderr)⟩
      else
        let remark := Bytes.ofString s!"executor replied {report.status.word}\n"
        match Console.write console.stderr remark with
        | .error _ => ⟨abortedStatus, sent, some (report.stdout, report.stderr)⟩
        | .ok () => ⟨1, sent, some (report.stdout, report.stderr ++ remark)⟩

def ofTask (host : Host) (console : Console) (client : Client) (receives : Receives) :
    Task → ClientRun
  | .stop =>
    match client.kill host with
    | .ok datagram => ⟨0, [datagram], some ([], [])⟩
    | .error cause => ofFailure console [] ⟨cause.message, []⟩
  | .run line =>
    let execution := client.ask host (Bytes.ofString line) receives
    match execution.result with
    | .ok report => ofReport console execution.sent.toList report
    | .error fault => ofFailure console execution.sent.toList fault.failure

/-- Starts the client with a command line; `receives` is what its socket will bring. -/
def start (host : Host) (console : Console) (arguments : List String) (receives : Receives) :
    ClientRun :=
  match Invocation.ofArguments arguments with
  | .error fault => ⟨fault.exitStatus, [], none⟩
  | .ok invocation =>
    match Client.connect host invocation.bind invocation.target with
    | .error failure => ofFailure console [] failure
    | .ok client => ofTask host console client receives invocation.task

/-- The same with outputs that can be written to and a socket that brings these datagrams. -/
def ofArguments (host : Host) (arguments : List String) (replies : List Reply) : ClientRun :=
  start host .working arguments (replies.map .ok)

end ClientRun
end DatagramShell
