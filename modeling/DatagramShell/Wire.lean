import DatagramShell.Bytes

/-!
# The wire

The service and its client agree on a port, on the largest command and the largest payload that one
datagram carries, and on two reserved datagrams: one that stops the service and one that closes a
response.

A datagram that starts with the control token asks the service to stop.  Any other datagram is a
command line; it ends at the first zero byte, since senders may fill their buffers with zeros.
-/

namespace DatagramShell
namespace Wire

/-- The port the service listens on unless it is told another. -/
def defaultPort : UInt16 := 35000

/-- A command datagram is cut to this many bytes when it is received. -/
def maxCommandLength : Nat := 1024

/-- The most payload that one chunk carries. -/
def maxPayloadLength : Nat := 1024

/-- Bytes in front of every chunk's payload: a sequence number and a total length. -/
def headerLength : Nat := 8

/-- The longest response that a stream may declare, 64 MiB. -/
def maxResponseLength : Nat := 64 * 1024 * 1024

/-- Stands in a report where no process ended with a code. -/
def noExitCode : Int32 := -1

/-- A datagram that starts with this token stops the service. -/
def controlToken : Bytes := Bytes.ofString "KILLIT"

def sentinel : Bytes := Bytes.ofString "finished"

def isControl (datagram : Bytes) : Bool :=
  controlToken.isPrefixOf datagram

def isSentinel (datagram : Bytes) : Bool :=
  datagram == sentinel

/-- What a receiver with a buffer of `capacity` bytes sees of a datagram. -/
def received (capacity : Nat) (datagram : Bytes) : Bytes :=
  datagram.take capacity

end Wire

inductive Request where
  | shutdown
  | execute (line : Bytes)
  deriving DecidableEq, Repr

namespace Request

def ofDatagram (datagram : Bytes) : Request :=
  if Wire.isControl datagram then .shutdown else .execute (Bytes.untilZero datagram)

/-- The request that the service sees: it receives no more of a datagram than its buffer holds. -/
def receive (datagram : Bytes) : Request :=
  ofDatagram (Wire.received Wire.maxCommandLength datagram)

end Request
end DatagramShell
