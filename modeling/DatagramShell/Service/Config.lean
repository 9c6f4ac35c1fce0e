import DatagramShell.Wire
import DatagramShell.Net.Address

/-!
# Configuration of the service

Where the service listens, how many commands may wait, how responses are cut into chunks, and which
shell runs the commands and how much of its output is kept.
-/

namespace DatagramShell

/-- The shell that interprets command lines, which it reads from its standard input. -/
structure ShellConfig where
  program : String
  arguments : List String
  /-- Bytes kept of either output stream; what goes beyond is discarded. -/
  maxCapture : Nat
  deriving DecidableEq, Repr

structure Transmission where
  chunkSize : Nat
  /-- Whether the last chunk is filled with zeros. -/
  padFinal : Bool
  deriving DecidableEq, Repr

structure ServiceConfig where
  endpoint : Endpoint
  /-- Commands that may wait while another one runs. -/
  queueDepth : Nat
  transmission : Transmission
  shell : ShellConfig
  deriving DecidableEq, Repr

namespace ServiceConfig

def defaultAddress : Address := .v4 ⟨0, 0, 0, 0⟩

def defaultQueueDepth : Nat := 8

def maxQueueDepth : Nat := 1024

def defaultShell : String := "bash"

def defaultShellArguments : List String := ["-l", "-s"]

/-- 16 MiB. -/
def defaultMaxCapture : Nat := 16 * 1024 * 1024

/-- Two streams of this length and what a report adds to them still fit into one response. -/
def maxMaxCapture : Nat := Wire.maxResponseLength / 2 - 1024

/-- Header and payload together make a datagram of 1024 bytes. -/
def defaultChunkSize : Nat := Wire.maxPayloadLength - Wire.headerLength

end ServiceConfig
end DatagramShell
