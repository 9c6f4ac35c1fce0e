import DatagramShell.Net.Host
import DatagramShell.Machine.Start
import DatagramShell.Service.Lifetime
import DatagramShell.Service.Options

/-!
# The service on the network

Requests come from sockets on the same machine.  The service sees of each datagram what its buffer
holds; whether a datagram comes at all is up to the machine's network.
-/

namespace DatagramShell

def Endpoint.loopback (port : UInt16) : Endpoint :=
  { address := .v4 ⟨127, 0, 0, 1⟩, port }

namespace Service

/-- Where a service listens that is reached over the loopback address. -/
def localEndpoint : Endpoint := .loopback Wire.defaultPort

def peerEndpoint (peer : Peer) : Endpoint := .loopback (UInt16.ofNat (40000 + peer))

def bind (host : Host) (endpoint : Endpoint) : Except Failure Unit :=
  match host.bind endpoint with
  | .ok () => .ok ()
  | .error cause => .error ⟨s!"Failed to bind UDP socket on {endpoint.text}", [cause.message]⟩

/-- The datagrams that a service receives, each cut to its buffer. -/
def received (host : Host) (datagrams : List Bytes) : Except SystemError (List Bytes) :=
  (host.sendAll (peerEndpoint 0) localEndpoint datagrams).map fun _ =>
    datagrams.map (Wire.received Wire.maxCommandLength)

def datagramsOf (actions : List Action) : List Bytes :=
  actions.filterMap fun
    | .send datagram _ => some datagram
    | .release => none

def sessionOver (host : Host) (service : Service) (actions : List Action) :
    Except SystemError (List Event) :=
  (host.sendAll (peerEndpoint 0) localEndpoint (datagramsOf actions)).map fun _ =>
    service.events .fresh actions

def burstOver (host : Host) (service : Service) (requests : List Bytes) :
    Except SystemError BurstResult :=
  (host.sendAll (peerEndpoint 0) localEndpoint requests).map fun _ => service.burst requests

def exchangesOver (host : Host) (service : Service) (requests : List Bytes) :
    Except SystemError (List Exchange) :=
  (host.sendAll (peerEndpoint 0) localEndpoint requests).map fun _ =>
    service.exchanges .fresh requests

/-- How the socket of a service takes a response to `target`. -/
def socketTo (host : Host) (target : Endpoint) (datagrams : List Bytes) : Socket := fun place =>
  host.send localEndpoint target (datagrams[place]?.getD []).length

def respondOver (host : Host) (transmission : Transmission) (target : Endpoint) (report : Report) :
    Delivery :=
  transmission.respond (socketTo host target (transmission.reply report)) target report

end Service

namespace ServiceConfig

def service (config : ServiceConfig) : Service where
  queueDepth := config.queueDepth
  transmission := config.transmission
  runner := config.shell.runner

end ServiceConfig

/-- What can be seen of a service that is started as a program: whether it listens, how it answers,
and with which status it ends, if it does. -/
structure ServiceRun where
  listening : Bool
  exchanges : List Service.Exchange
  exitStatus : Option Nat
  deriving DecidableEq, Repr

namespace ServiceRun

def ended (exitStatus : Nat) : ServiceRun :=
  ⟨false, [], some exitStatus⟩

/-- Starts the service with a command line and sends it requests one at a time. -/
def ofArguments (host : Host) (arguments : List String) (requests : List Bytes) :
    Except SystemError ServiceRun :=
  match ServiceConfig.ofArguments arguments fun _ => none with
  | .error fault => .ok (ended fault.exitStatus)
  | .ok config =>
    match Service.bind host config.endpoint with
    | .error _ => .ok (ended 1)
    | .ok () =>
      (Service.exchangesOver host config.service requests).map fun exchanges =>
        let stopped := exchanges.contains .stopped
        ⟨true, exchanges, if stopped then some ServiceEnd.stopped.exitStatus else none⟩

end ServiceRun
end DatagramShell
