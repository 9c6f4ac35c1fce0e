import DatagramShell.Client.Program
import DatagramShell.Service.Reachability

/-!
# The command line

`serve` takes the options of the service and reads requests from the standard input, one a line;
what a client shows of each answer is written to the standard output and the standard error.  `send`
takes the options of the client and asks a service whose settings come from the environment.
Service and client are parts of one process, and no datagram leaves it: both are on a machine whose
programs reach each other, and every datagram of an answer arrives, in the order in which it was
sent.  The client then shows what the service has found out.
-/

namespace DatagramShell

namespace Service.Exchange

def datagrams : Exchange → List Bytes
  | .reply datagrams => datagrams
  | .stopped | .down => []

end Service.Exchange

namespace ClientRun

def repliesOf (exchange : Service.Exchange) : List Reply :=
  exchange.datagrams.map fun datagram => { fromTarget := true, datagram }

def ofExchange (request : Bytes) (exchange : Service.Exchange) : ClientRun :=
  match Client.collect Invocation.defaultTarget .fresh (repliesOf exchange) with
  | .ok report => ofReport .working [request] report
  | .error fault => ofFailure .working [request] fault.failure

def requestOf : Task → Bytes
  | .stop => Wire.controlToken
  | .run line => Bytes.ofString line

/-- Starts a client with a command line; the service that it asks is up and has nothing to do. -/
def withService (service : Service) (arguments : List String) : ClientRun :=
  match Invocation.ofArguments arguments with
  | .error fault => ⟨fault.exitStatus, [], none⟩
  | .ok invocation =>
    let exchange := (service.exchange .fresh (requestOf invocation.task)).1
    ofArguments .connected arguments (repliesOf exchange)

end ClientRun

end DatagramShell

open DatagramShell

def writeRun (run : ClientRun) : IO Unit := do
  match run.output with
  | none => pure ()
  | some (stdout, stderr) =>
    let output ← IO.getStdout
    output.write (ByteArray.mk stdout.toArray)
    output.flush
    let errors ← IO.getStderr
    errors.write (ByteArray.mk stderr.toArray)
    errors.flush

def requestOfLine (line : String) : Bytes :=
  Bytes.dropFinalLineFeed (Bytes.ofString line)

/-- Answers the lines of the standard input until one of them stops the service. -/
partial def answerLines (service : Service) (session : Session) : IO Unit := do
  let line ← (← IO.getStdin).getLine
  if line.isEmpty then return
  let request := requestOfLine line
  match service.exchange session request with
  | (.reply datagrams, next) =>
    writeRun (ClientRun.ofExchange request (.reply datagrams))
    answerLines service next
  | (_, _) => return

def readConfig (arguments : List String) : IO (Except OptionFault ServiceConfig) := do
  let names := ServiceOption.settable.filterMap ServiceOption.variableName
  let environment ← names.mapM fun name => do return (name, ← IO.getEnv name)
  return ServiceConfig.ofArguments arguments fun name => (environment.lookup name).join

def serve (arguments : List String) : IO UInt32 := do
  match ← readConfig arguments with
  | .error fault => return UInt32.ofNat fault.exitStatus
  | .ok config =>
    answerLines config.service .fresh
    return 0

def send (arguments : List String) : IO UInt32 := do
  match ← readConfig [] with
  | .error fault => return UInt32.ofNat fault.exitStatus
  | .ok config =>
    let run := ClientRun.withService config.service arguments
    writeRun run
    return UInt32.ofNat run.exitStatus

def main (arguments : List String) : IO UInt32 := do
  match arguments with
  | "serve" :: options => serve options
  | "send" :: words => send words
  | _ =>
    (← IO.getStderr).putStrLn "usage: serve [OPTIONS] | send [OPTIONS] COMMAND..."
    return 2
