import DatagramShell.Report
import DatagramShell.Stream.Assembly
import DatagramShell.Net.Host

/-!
# Asking for one command

The client sends a command line and collects the chunks of the answer until the stream is complete,
a datagram is refused, its socket fails or nothing more comes.  Datagrams from anyone but the
service it has asked are ignored.  Lines that the service would cut, or take for the order to stop,
are not sent.
-/

namespace DatagramShell

/-- A client's socket and the service it talks to. -/
structure Client where
  source : Endpoint
  target : Endpoint
  deriving DecidableEq, Repr

/-- A datagram that reaches the client. -/
structure Reply where
  /-- Whether it comes from the service that was asked. -/
  fromTarget : Bool
  datagram : Bytes
  deriving DecidableEq, Repr

/-- What the receives of the client's socket bring, one after the other; behind the last of them
there is silence. -/
abbrev Receives := List (Except SystemError Reply)

inductive ExecuteError where
  | tooLong (length : Nat)
  | controlLine
  | unsendable (target : Endpoint) (cause : SystemError)
  | assembly (cause : AssemblyError)
  | framing (cause : Report.ReadError)
  | unreceivable (cause : SystemError)
  | timedOut (received : Nat) (target : Endpoint)
  deriving DecidableEq, Repr

namespace ExecuteError

def failure : ExecuteError → Failure
  | .tooLong length => ⟨s!"Command is {length} bytes, limit is {Wire.maxCommandLength}", []⟩
  | .controlLine =>
    ⟨"Command starts with the control token; use --kill to stop the executor", []⟩
  | .unsendable target cause => ⟨s!"Failed to send command to {target.text}", [cause.message]⟩
  | .assembly (.undecodable cause) =>
    ⟨(AssemblyError.undecodable cause).message, [cause.message]⟩
  | .assembly cause => ⟨cause.message, []⟩
  | .framing cause => ⟨cause.message, []⟩
  | .unreceivable cause => ⟨cause.message, []⟩
  | .timedOut received target =>
    ⟨s!"Timed out after {received} chunk(s) waiting for {target.text}", ["deadline has elapsed"]⟩

end ExecuteError

namespace Client

/-- The client's buffer holds more than a header and a full payload. -/
def bufferLength : Nat := 2048

def connect (host : Host) (source target : Endpoint) : Except Failure Client :=
  match host.bind source with
  | .ok () => .ok ⟨source, target⟩
  | .error cause => .error ⟨s!"Failed to bind {source.text}", [cause.message]⟩

/-- Orders the service to stop: the datagram that is sent. -/
def kill (host : Host) (client : Client) : Except SystemError Bytes :=
  (host.send client.source client.target Wire.controlToken.length).map fun _ => Wire.controlToken

/-- Why a line is not sent, if it is not. -/
def rejection? (line : Bytes) : Option ExecuteError :=
  if Wire.maxCommandLength < line.length then some (.tooLong line.length)
  else if Wire.isControl line then some .controlLine
  else none

def listen (target : Endpoint) (assembly : Assembly) : Receives → Except ExecuteError Report
  | [] => .error (.timedOut assembly.received target)
  | .error cause :: _ => .error (.unreceivable cause)
  | .ok reply :: receives =>
    if reply.fromTarget then
      match assembly.push (Wire.received bufferLength reply.datagram) with
      | (.error fault, _) => .error (.assembly fault)
      | (.ok .pending, next) => listen target next receives
      | (.ok (.complete response), _) =>
        match Report.parse response with
        | .error fault => .error (.framing fault)
        | .ok report => .ok report
    else listen target assembly receives

/-- What a client makes of the datagrams that reach it, as long as its socket does not fail. -/
def collect (target : Endpoint) (assembly : Assembly) (replies : List Reply) :
    Except ExecuteError Report :=
  listen target assembly (replies.map .ok)

/-- What the client has sent, and the report it has got or why it has none. -/
structure Execution where
  sent : Option Bytes
  result : Except ExecuteError Report

def ask (host : Host) (client : Client) (line : Bytes) (receives : Receives) : Execution :=
  match rejection? line with
  | some rejection => ⟨none, .error rejection⟩
  | none =>
    match host.send client.source client.target line.length with
    | .error cause => ⟨none, .error (.unsendable client.target cause)⟩
    | .ok () => ⟨some line, listen client.target .fresh receives⟩

def execute (host : Host) (client : Client) (line : Bytes) (replies : List Reply) : Execution :=
  client.ask host line (replies.map .ok)

end Client
end DatagramShell
