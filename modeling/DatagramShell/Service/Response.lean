import DatagramShell.Report
import DatagramShell.Stream.Split
import DatagramShell.Service.Config
import DatagramShell.Failure

/-!
# Sending a response

A report is rendered, split into a stream and sent datagram by datagram, the sentinel last.  A
report that cannot be split is not sent at all; a datagram that cannot be sent ends the response.
-/

namespace DatagramShell

namespace Transmission

def stream (transmission : Transmission) (report : Report) : Except SplitError Stream :=
  Stream.split report.render transmission.chunkSize transmission.padFinal

/-- The datagrams of a response, none if the report cannot be split. -/
def reply (transmission : Transmission) (report : Report) : List Bytes :=
  match transmission.stream report with
  | .ok stream => stream.datagrams
  | .error _ => []

end Transmission

inductive ResponseError where
  | unsplittable (cause : SplitError)
  | unsendable (place : Nat) (target : Endpoint) (cause : SystemError)
  deriving DecidableEq, Repr

namespace ResponseError

def message : ResponseError → String
  | .unsplittable cause => s!"Failed to chunk response: {cause.message}"
  | .unsendable place target cause =>
    s!"Failed to send datagram {place} to {target.text}: {cause.message}"

end ResponseError

/-- What has been sent of a response, and how many chunks it has or why it was given up. -/
structure Delivery where
  sent : List Bytes
  result : Except ResponseError Nat

/-- How a socket takes the datagrams of a response: whether it refuses the one at each place. -/
abbrev Socket := Nat → Except SystemError Unit

/-- Sends datagrams from the given place on, up to the first one that is refused; the ones that went
out are kept in reverse. -/
def sendFrom (socket : Socket) (place : Nat) (reversed : List Bytes) :
    List Bytes → List Bytes × Option (Nat × SystemError)
  | [] => (reversed.reverse, none)
  | datagram :: datagrams =>
    match socket place with
    | .error cause => (reversed.reverse, some (place, cause))
    | .ok () => sendFrom socket (place + 1) (datagram :: reversed) datagrams

def Transmission.respond (transmission : Transmission) (socket : Socket) (target : Endpoint)
    (report : Report) : Delivery :=
  match transmission.stream report with
  | .error cause => ⟨[], .error (.unsplittable cause)⟩
  | .ok stream =>
    match sendFrom socket 0 [] stream.datagrams with
    | (sent, none) => ⟨sent, .ok stream.chunks.length⟩
    | (sent, some (place, cause)) => ⟨sent, .error (.unsendable place target cause)⟩

end DatagramShell
