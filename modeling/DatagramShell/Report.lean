import DatagramShell.Wire
import DatagramShell.Text.Numeral
import DatagramShell.Text.Utf8
import DatagramShell.Text.Quoted

/-!
# Reports

The outcome of one command, as it is sent back: a status, a return code and the two captured output
streams.  A report is written as text: the status word and the code on lines of their own, then the
bytes of either stream between markers.  The text carries no lengths.
-/

namespace DatagramShell

inductive Status where
  /-- The shell was launched and ran to its end, with whatever code. -/
  | ackOk
  /-- The shell or the program it was asked for could not be launched. -/
  | error
  /-- The request was refused because too many others were waiting. -/
  | busy
  deriving DecidableEq, Repr

namespace Status

def word : Status → String
  | .ackOk => "ack-ok"
  | .error => "error"
  | .busy => "busy"

def ofWord? (line : Bytes) : Option Status :=
  if line = Bytes.ofString "ack-ok" then some .ackOk
  else if line = Bytes.ofString "error" then some .error
  else if line = Bytes.ofString "busy" then some .busy
  else none

theorem ofWord?_word (status : Status) :
    ofWord? (Bytes.ofString status.word) = some status := by
  cases status <;> decide

theorem eq_word_of_ofWord? {line : Bytes} {status : Status} (read : ofWord? line = some status) :
    line = Bytes.ofString status.word := by
  unfold ofWord? at read
  split at read
  · cases read; assumption
  · split at read
    · cases read; assumption
    · split at read
      · cases read; assumption
      · cases read

end Status

structure Report where
  status : Status
  exitCode : Int32
  stdout : Bytes
  stderr : Bytes
  deriving DecidableEq, Repr

namespace Report

/-- A command that was launched and ran to its end. -/
def completed (exitCode : Int32) (stdout stderr : Bytes) : Report :=
  ⟨.ackOk, exitCode, stdout, stderr⟩

/-- A command whose program the shell could not find or execute; its output is left out. -/
def notLaunched (exitCode : Int32) : Report :=
  ⟨.error, exitCode, [], []⟩

/-- A command whose shell could not be launched. -/
def failed : Report :=
  notLaunched Wire.noExitCode

def busy : Report :=
  ⟨.busy, Wire.noExitCode, [], []⟩

def launched (report : Report) : Bool :=
  report.status == .ackOk

/-- Opens the first output section. -/
def stdoutMarker : Bytes := Bytes.ofString "stdout\n"

/-- Closes the first output section and opens the second. -/
def stderrMarker : Bytes := Bytes.ofString "\nstderr\n"

def codeText (exitCode : Int32) : Bytes :=
  Bytes.ofString (String.ofList (Numeral.ofInt exitCode.toInt))

def render (report : Report) : Bytes :=
  Bytes.ofString report.status.word ++ Bytes.lineFeed ::
    (codeText report.exitCode ++ Bytes.lineFeed ::
      (stdoutMarker ++ (report.stdout ++ (stderrMarker ++ (report.stderr ++ [Bytes.lineFeed])))))

/-!
## Reading a report back

The status and the code stand on the first two lines.  The first output section ends at the first
place where the second one's marker occurs, so a marker inside the output itself moves the border.
One line feed at the end belongs to the text and not to the output.
-/

inductive ReadError where
  | missingStatusLine
  | missingCodeLine
  | unknownStatus (line : Bytes)
  | invalidCode (line : Bytes)
  | missingStdoutMarker
  | missingStderrMarker
  deriving DecidableEq, Repr

def quotedLine (line : Bytes) : String :=
  String.ofList (Quoted.encode (Utf8.decode line))

namespace ReadError

def message : ReadError → String
  | .missingStatusLine => "Missing status line"
  | .missingCodeLine => "Missing return code line"
  | .unknownStatus line => "Unknown status line: " ++ quotedLine line
  | .invalidCode line => "Invalid return code: " ++ quotedLine line
  | .missingStdoutMarker => "Missing stdout section marker"
  | .missingStderrMarker => "Missing stderr section marker"

end ReadError

/-- The two output sections, from the first marker on. -/
def readSections (bytes : Bytes) : Except ReadError (Bytes × Bytes) :=
  match Bytes.dropPrefix? stdoutMarker bytes with
  | none => .error .missingStdoutMarker
  | some sections =>
    match Bytes.splitAt? stderrMarker sections with
    | none => .error .missingStderrMarker
    | some (stdout, tail) => .ok (stdout, Bytes.dropFinalLineFeed tail)

/-- The return code, on a line of its own, and what follows it. -/
def readCode (bytes : Bytes) : Except ReadError (Int32 × Bytes) :=
  match Bytes.splitLine? bytes with
  | none => .error .missingCodeLine
  | some (line, rest) =>
    match Numeral.int32? (Utf8.decode line) with
    | none => .error (.invalidCode line)
    | some exitCode => .ok (exitCode, rest)

/-- The status, on a line of its own, and what follows it. -/
def readStatus (bytes : Bytes) : Except ReadError (Status × Bytes) :=
  match Bytes.splitLine? bytes with
  | none => .error .missingStatusLine
  | some (line, rest) =>
    match Status.ofWord? line with
    | none => .error (.unknownStatus line)
    | some status => .ok (status, rest)

/-- Reads a whole report; the first fault from the front is the one reported. -/
def parse (bytes : Bytes) : Except ReadError Report :=
  match readStatus bytes with
  | .error fault => .error fault
  | .ok (status, afterStatus) =>
    match readCode afterStatus with
    | .error fault => .error fault
    | .ok (exitCode, afterCode) =>
      match readSections afterCode with
      | .error fault => .error fault
      | .ok (stdout, stderr) => .ok ⟨status, exitCode, stdout, stderr⟩

end Report
end DatagramShell
