import DatagramShell.Net.Address
import DatagramShell.Failure
import DatagramShell.Bytes

/-!
# The network of a machine

What a machine lets its programs do with datagram sockets: which addresses a socket may be bound to,
whether ports below 1024 may be used, and which addresses a datagram can be routed to.  Binding and
sending are refused with the cause that the first failing rule names.

Two machines are singled out.  A `connected` one carries datagrams between its own addresses.  An
`isolated` one has no interface that is up: sockets can be opened, but no datagram leaves one.
-/

namespace DatagramShell

structure Host where
  /-- The addresses that a socket may be bound to. -/
  offers : Address → Bool
  /-- The addresses that a datagram can be routed to. -/
  reaches : Address → Bool
  /-- Whether ports below 1024 may be used. -/
  mayUseLowPorts : Bool

namespace Host

/-- The longest datagram that the socket interface takes. -/
def maxDatagramLength : Nat := 65535

def refusesPort (host : Host) (port : UInt16) : Bool :=
  port != 0 && port < 1024 && !host.mayUseLowPorts

/-- Opens a socket on an end point.  For IPv4 the address is checked before the port, for IPv6 the
port before the address. -/
def bind (host : Host) (endpoint : Endpoint) : Except SystemError Unit :=
  if endpoint.address.isIpv4 then
    if !host.offers endpoint.address then .error .addressNotAvailable
    else if host.refusesPort endpoint.port then .error .permissionDenied
    else .ok ()
  else
    if host.refusesPort endpoint.port then .error .permissionDenied
    else if !host.offers endpoint.address then .error .addressNotAvailable
    else .ok ()

/-- Sends a datagram of `length` bytes from a socket bound to `source`. -/
def send (host : Host) (source target : Endpoint) (length : Nat) : Except SystemError Unit :=
  if maxDatagramLength < length then .error .messageTooLong
  else if source.address.isIpv4 && !target.address.isIpv4 then .error .familyNotSupported
  else if target.port = 0 then .error .invalidArgument
  else if !host.reaches target.address then .error .networkUnreachable
  else .ok ()

def sendAll (host : Host) (source target : Endpoint) : List Bytes → Except SystemError Unit
  | [] => .ok ()
  | datagram :: datagrams =>
    match host.send source target datagram.length with
    | .error cause => .error cause
    | .ok () => host.sendAll source target datagrams

/-- A machine whose programs can talk to each other over the loopback addresses. -/
def connected : Host where
  offers address := address.isLoopback || address.isUnspecified
  reaches address := address.isLoopback || address.isUnspecified
  mayUseLowPorts := false

/-- A machine on which no interface is up.  It has no table of its own addresses, so any IPv4
address may be bound. -/
def isolated : Host where
  offers address := address.isIpv4 || address.isUnspecified
  reaches _ := false
  mayUseLowPorts := false

end Host
end DatagramShell
