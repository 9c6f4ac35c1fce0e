/-!
# Failures

The causes for which the operating system can refuse to open a socket, to send or receive a
datagram, to start a program or to move its data, each with its number.

What went wrong is shown to a person with the causes behind it, from the nearest to the last.  A
program that gives up shows them over several lines; inside a sentence they follow each other after
colons.
-/

namespace DatagramShell

inductive SystemError where
  | notFound
  | interrupted
  | inputOutput
  | noChild
  | permissionDenied
  | notADirectory
  | invalidArgument
  | noSpace
  | brokenPipe
  | messageTooLong
  | familyNotSupported
  | addressNotAvailable
  | networkDown
  | networkUnreachable
  deriving DecidableEq, Repr

namespace SystemError

def number : SystemError → Nat
  | .notFound => 2
  | .interrupted => 4
  | .inputOutput => 5
  | .noChild => 10
  | .permissionDenied => 13
  | .notADirectory => 20
  | .invalidArgument => 22
  | .noSpace => 28
  | .brokenPipe => 32
  | .messageTooLong => 90
  | .familyNotSupported => 97
  | .addressNotAvailable => 99
  | .networkDown => 100
  | .networkUnreachable => 101

def description : SystemError → String
  | .notFound => "No such file or directory"
  | .interrupted => "Interrupted system call"
  | .inputOutput => "Input/output error"
  | .noChild => "No child processes"
  | .permissionDenied => "Permission denied"
  | .notADirectory => "Not a directory"
  | .invalidArgument => "Invalid argument"
  | .noSpace => "No space left on device"
  | .brokenPipe => "Broken pipe"
  | .messageTooLong => "Message too long"
  | .familyNotSupported => "Address family not supported by protocol"
  | .addressNotAvailable => "Cannot assign requested address"
  | .networkDown => "Network is down"
  | .networkUnreachable => "Network is unreachable"

def message (error : SystemError) : String :=
  s!"{error.description} (os error {error.number})"

end SystemError

structure Failure where
  message : String
  causes : List String := []
  deriving DecidableEq, Repr

namespace Failure

/-- Everything on one line. -/
def inline (failure : Failure) : String :=
  ": ".intercalate (failure.message :: failure.causes)

/-- One cause stands alone on its line; several are numbered from zero. -/
def causeLines : List String → List String
  | [] => []
  | [cause] => ["", "Caused by:", "    " ++ cause]
  | causes => "" :: "Caused by:" :: causes.mapIdx fun place cause => s!"    {place}: {cause}"

def report (failure : Failure) : String :=
  String.join (("Error: " ++ failure.message) :: causeLines failure.causes |>.map (· ++ "\n"))

end Failure
end DatagramShell
