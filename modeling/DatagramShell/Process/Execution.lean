import DatagramShell.Failure
import DatagramShell.Report
import DatagramShell.Service.Config

/-!
# Running a command

A command line is written to a shell process, whose two output streams are captured.  Output is read
from a pipe piece by piece, to its end.  Only the first bytes are kept, up to a limit; the pieces
after them are read all the same, so that the writer is never held up.

How the process ended decides the code of the report.  The codes with which a shell says that it did
not find or could not execute a program make a report of their own kind, without output.  There is
no report if the shell cannot be started, or if writing to it, reading from it or waiting for it
fails.
-/

namespace DatagramShell

/-! ## Capturing output -/

/-- What the reads of a pipe bring, one after the other. -/
abbrev Reads := List (Except SystemError Bytes)

/-- What has been kept so far, the last piece first. -/
structure Capture where
  pieces : List Bytes := []
  size : Nat := 0
  deriving DecidableEq, Repr

/-- A pipe that has been read to its end. -/
structure Draining where
  capture : Capture
  /-- How many bytes were read but not kept. -/
  discarded : Nat
  /-- What stands behind the end of the data; it is not read. -/
  unread : Reads

namespace Capture

/-- Takes in one read: as much of it as the limit leaves room for. -/
def take (limit : Nat) (capture : Capture) (read : Bytes) : Capture :=
  let kept := read.take (limit - capture.size)
  { pieces := kept :: capture.pieces, size := capture.size + kept.length }

def bytes (capture : Capture) : Bytes :=
  capture.pieces.reverse.flatten

/-- Reads a pipe turn by turn; a read that brings nothing is the end of the data. -/
def readToEnd (limit : Nat) (capture : Capture) (discarded : Nat) :
    Reads → Except SystemError Draining
  | [] => .ok ⟨capture, discarded, []⟩
  | .error cause :: _ => .error cause
  | .ok read :: reads =>
    if read = [] then .ok ⟨capture, discarded, reads⟩
    else
      let kept := min read.length (limit - capture.size)
      readToEnd limit (capture.take limit read) (discarded + (read.length - kept)) reads

/-- What is kept of a stream. -/
def drain (limit : Nat) (reads : Reads) : Except SystemError Bytes :=
  (readToEnd limit {} 0 reads).map fun drained => drained.capture.bytes

end Capture

/-! ## Processes -/

inductive Ending where
  | exited (code : UInt8)
  | signaled (signal : Fin 128)
  /-- The system names neither a code nor a signal. -/
  | unexplained
  deriving DecidableEq, Repr

namespace Ending

/-- The code of a process; a signal counts from 128. -/
def code : Ending → Int32
  | .exited code => Int32.ofInt code.toNat
  | .signaled signal => Int32.ofInt (128 + signal.val)
  | .unexplained => Wire.noExitCode

end Ending

/-- What can be seen of a process from outside: whether it can be given its input, what the reads of
its output bring, and how it ends. -/
structure Outcome where
  stdin : Except SystemError Unit
  stdout : Reads
  stderr : Reads
  ending : Except SystemError Ending

/-- How an operating system runs a program, given its arguments and all of its input, or why it does
not. -/
abbrev Launcher :=
  (program : String) → (arguments : List String) → (stdin : Bytes) → Except SystemError Outcome

/-- Why there is no report on a command. -/
inductive CommandError where
  | launch (program : String) (cause : SystemError)
  | stdin (cause : SystemError)
  | read (stream : String) (cause : SystemError)
  | wait (cause : SystemError)
  deriving DecidableEq, Repr

namespace CommandError

def message : CommandError → String
  | .launch program cause => s!"Failed to launch {program}: {cause.message}"
  | .stdin cause => s!"Failed to write command to shell: {cause.message}"
  | .read stream cause => s!"Failed to read {stream}: {cause.message}"
  | .wait cause => s!"Failed to wait for shell: {cause.message}"

end CommandError

namespace Report

/-- The code of a shell that found a program which it could not execute. -/
def notExecutableCode : Int32 := 126

/-- The code of a shell that did not find a program. -/
def notFoundCode : Int32 := 127

def isLaunchFailure (code : Int32) : Bool :=
  code == notExecutableCode || code == notFoundCode

/-- The report on a process that ended with a code. -/
def ofProcess (code : Int32) (stdout stderr : Bytes) : Report :=
  if isLaunchFailure code then notLaunched code else completed code stdout stderr

/-- The report that is sent back, whatever became of the command. -/
def ofResult : Except CommandError Report → Report
  | .ok report => report
  | .error _ => failed

end Report

namespace Outcome

/-- A shell may end before it has read everything, so a broken pipe is no failure. -/
def feed (outcome : Outcome) : Except CommandError Unit :=
  match outcome.stdin with
  | .ok () | .error .brokenPipe => .ok ()
  | .error cause => .error (.stdin cause)

def drain (stream : String) (limit : Nat) (reads : Reads) : Except CommandError Bytes :=
  (Capture.drain limit reads).mapError (.read stream)

/-- The report on a process, of whose output `limit` bytes are kept.  Its pipes are served at the
same time; of several failures, which all come to the same, the first in this order is named. -/
def report (limit : Nat) (outcome : Outcome) : Except CommandError Report := do
  outcome.feed
  let stdout ← drain "stdout" limit outcome.stdout
  let stderr ← drain "stderr" limit outcome.stderr
  let ending ← outcome.ending.mapError .wait
  return .ofProcess ending.code stdout stderr

end Outcome

/-! ## Runners -/

abbrev Runner := Bytes → Except CommandError Report

namespace Runner

def answer (runner : Runner) (line : Bytes) : Report :=
  .ofResult (runner line)

end Runner

/-- Runs command lines by giving them to the configured shell, which is started by `launch`. -/
def ShellConfig.runnerOn (shell : ShellConfig) (launch : Launcher) : Runner := fun line =>
  match launch shell.program shell.arguments line with
  | .error cause => .error (.launch shell.program cause)
  | .ok outcome => outcome.report shell.maxCapture

end DatagramShell
