import DatagramShell.Options.Scan
import DatagramShell.Wire
import DatagramShell.Net.Address

/-!
# Options of the client

The options come first and the command behind them.  The first argument that is no option of the
client begins the command, even if it looks like one, and nothing behind it is taken for an option
any more.  Asking the service to stop and asking it to run a command exclude each other.
-/

namespace DatagramShell

inductive ClientOption where
  | target
  | bind
  | timeout
  | kill
  | help
  | version
  deriving DecidableEq, Repr

namespace ClientOption

def ofLong? : String → Option ClientOption
  | "target" => some .target
  | "bind" => some .bind
  | "timeout" => some .timeout
  | "kill" => some .kill
  | "help" => some .help
  | "version" => some .version
  | _ => none

def ofShort? : Char → Option ClientOption
  | 't' => some .target
  | 'b' => some .bind
  | 'h' => some .help
  | 'V' => some .version
  | _ => none

def kind : ClientOption → OptionKind
  | .kill => .flag
  | .help => .help
  | .version => .version
  | _ => .single

def vocabulary : Vocabulary ClientOption where
  long? := ofLong?
  short? := ofShort?
  kind := kind
  takesWords := true

end ClientOption

inductive Task where
  | stop
  | run (line : String)
  deriving DecidableEq, Repr

structure Invocation where
  target : Endpoint
  bind : Endpoint
  /-- Seconds of silence after which the client gives up. -/
  timeout : Nat
  task : Task
  deriving DecidableEq, Repr

structure ClientSettings where
  target : Option Endpoint := none
  bind : Option Endpoint := none
  timeout : Option Nat := none
  kill : Option Unit := none
  words : List String := []
  deriving DecidableEq, Repr

namespace ClientSettings

def readEndpoint : String → Except OptionFault Endpoint :=
  readWith Endpoint.ofText?

def readTimeout : String → Except OptionFault Nat :=
  readWith fun text => Numeral.upTo? 18446744073709551615 text.toList

def give (settings : ClientSettings) (option : ClientOption) (text : String) :
    Except OptionFault ClientSettings :=
  match option with
  | .target =>
    (readOnce settings.target readEndpoint text).map fun target => { settings with target }
  | .bind => (readOnce settings.bind readEndpoint text).map fun bind => { settings with bind }
  | .timeout =>
    (readOnce settings.timeout readTimeout text).map fun timeout => { settings with timeout }
  | .kill | .help | .version => .error .unneededValue

def giveFlag (settings : ClientSettings) (option : ClientOption) :
    Except OptionFault ClientSettings :=
  match option with
  | .kill => (readOnce settings.kill (fun _ => .ok ()) "").map fun kill => { settings with kill }
  | _ => .error .missingValue

def takeIn (settings : ClientSettings) : Finding ClientOption → Except OptionFault ClientSettings
  | .flag option => settings.giveFlag option
  | .value option text => settings.give option text
  | .missingValue _ => .error .missingValue
  | .unneededValue _ => .error .unneededValue
  | .unknown => .error .unknownArgument
  | .words words => .ok { settings with words }
  | .help => .error .helpRequested
  | .version => .error .versionRequested

/-- Takes in what the command line says, up to the first fault. -/
def ofArguments (arguments : List String) : Except OptionFault ClientSettings :=
  (ClientOption.vocabulary.findings arguments).foldlM takeIn {}

/-- The words of a command are joined by single blanks. -/
def line (words : List String) : String :=
  " ".intercalate words

def task (settings : ClientSettings) : Except OptionFault Task :=
  match settings.kill, settings.words with
  | some (), [] => .ok .stop
  | some (), _ :: _ => .error .conflictingCommand
  | none, [] => .error .missingCommand
  | none, words => .ok (.run (line words))

end ClientSettings

namespace Invocation

/-- The service on this machine. -/
def defaultTarget : Endpoint :=
  { address := .v4 ⟨127, 0, 0, 1⟩, port := Wire.defaultPort }

/-- Any address and any free port. -/
def defaultBind : Endpoint :=
  { address := .v4 ⟨0, 0, 0, 0⟩, port := 0 }

def defaultTimeout : Nat := 10

def ofArguments (arguments : List String) : Except OptionFault Invocation :=
  match ClientSettings.ofArguments arguments with
  | .error fault => .error fault
  | .ok settings =>
    settings.task.map fun task =>
      { target := settings.target.getD defaultTarget
        bind := settings.bind.getD defaultBind
        timeout := settings.timeout.getD defaultTimeout
        task }

end Invocation
end DatagramShell
