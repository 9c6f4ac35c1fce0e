import DatagramShell.Options.Scan
import DatagramShell.Service.Config

/-!
# Options of the service

Every setting of the service can be given on the command line or by a variable of the environment.
The command line goes before the environment, and the environment before the default; a variable is
not even looked at when its option is given.  The first fault from the left is the one reported, and
faults of variables come after those of the command line.
-/

namespace DatagramShell

inductive ServiceOption where
  | bind
  | port
  | queueDepth
  | shell
  | shellArguments
  | maxCapture
  | padFinal
  | help
  | version
  deriving DecidableEq, Repr

namespace ServiceOption

def ofLong? : String → Option ServiceOption
  | "bind" => some .bind
  | "port" => some .port
  | "queue-depth" => some .queueDepth
  | "shell" => some .shell
  | "shell-args" => some .shellArguments
  | "max-capture-bytes" => some .maxCapture
  | "pad-final-chunk" => some .padFinal
  | "help" => some .help
  | "version" => some .version
  | _ => none

def ofShort? : Char → Option ServiceOption
  | 'b' => some .bind
  | 'p' => some .port
  | 'q' => some .queueDepth
  | 's' => some .shell
  | 'h' => some .help
  | 'V' => some .version
  | _ => none

def kind : ServiceOption → OptionKind
  | .padFinal => .flag
  | .shellArguments => .repeated
  | .help => .help
  | .version => .version
  | _ => .single

def vocabulary : Vocabulary ServiceOption where
  long? := ofLong?
  short? := ofShort?
  kind := kind
  takesWords := false

/-- The variable of the environment that may give an option's value. -/
def variableName : ServiceOption → Option String
  | .bind => some "EXECUTOR_BIND"
  | .port => some "EXECUTOR_PORT"
  | .queueDepth => some "EXECUTOR_QUEUE_DEPTH"
  | .shell => some "EXECUTOR_SHELL"
  | .shellArguments => some "EXECUTOR_SHELL_ARGS"
  | .maxCapture => some "EXECUTOR_MAX_CAPTURE"
  | .padFinal => some "EXECUTOR_PAD_FINAL_CHUNK"
  | .help | .version => none

def settable : List ServiceOption :=
  [.bind, .port, .queueDepth, .shell, .shellArguments, .maxCapture, .padFinal]

def given (environment : String → Option String) (option : ServiceOption) : Option String :=
  option.variableName.bind environment

end ServiceOption

structure ServiceSettings where
  address : Option Address := none
  port : Option UInt16 := none
  queueDepth : Option Nat := none
  shell : Option String := none
  shellArguments : Option (List String) := none
  maxCapture : Option Nat := none
  padFinal : Option Bool := none
  deriving DecidableEq, Repr

/-- The words of a text that is split at every single blank. -/
def splitBlanks : List Char → List (List Char)
  | [] => [[]]
  | character :: text =>
    if character = ' ' then [] :: splitBlanks text
    else
      match splitBlanks text with
      | [] => [[character]]
      | word :: words => (character :: word) :: words

namespace ServiceSettings

def readAddress : String → Except OptionFault Address :=
  readWith Address.ofText?

def readPort : String → Except OptionFault UInt16 :=
  readWith fun text => (Numeral.between? 0 65535 text.toList).map fun port =>
    UInt16.ofNat port.toNat

def readQueueDepth : String → Except OptionFault Nat :=
  readWith fun text =>
    (Numeral.between? 1 ServiceConfig.maxQueueDepth text.toList).map Int.toNat

def readShell (text : String) : Except OptionFault String :=
  .ok text

def readShellArguments (text : String) : Except OptionFault (List String) :=
  .ok ((splitBlanks text.toList).map String.ofList)

def readMaxCapture : String → Except OptionFault Nat :=
  readWith fun text => Numeral.upTo? ServiceConfig.maxMaxCapture text.toList

def readPadFinal (text : String) : Except OptionFault Bool :=
  if text = "true" then .ok true
  else if text = "false" then .ok false
  else .error .unreadableFlag

def give (settings : ServiceSettings) (option : ServiceOption) (text : String) :
    Except OptionFault ServiceSettings :=
  match option with
  | .bind =>
    (readOnce settings.address readAddress text).map fun address => { settings with address }
  | .port => (readOnce settings.port readPort text).map fun port => { settings with port }
  | .queueDepth =>
    (readOnce settings.queueDepth readQueueDepth text).map fun queueDepth =>
      { settings with queueDepth }
  | .shell => (readOnce settings.shell readShell text).map fun shell => { settings with shell }
  | .shellArguments =>
    (readShellArguments text).map fun given =>
      { settings with shellArguments := some (settings.shellArguments.getD [] ++ given) }
  | .maxCapture =>
    (readOnce settings.maxCapture readMaxCapture text).map fun maxCapture =>
      { settings with maxCapture }
  | .padFinal | .help | .version => .error .unneededValue

def giveFlag (settings : ServiceSettings) (option : ServiceOption) :
    Except OptionFault ServiceSettings :=
  match option with
  | .padFinal =>
    (readOnce settings.padFinal readPadFinal "true").map fun padFinal => { settings with padFinal }
  | _ => .error .missingValue

def takeIn (settings : ServiceSettings) : Finding ServiceOption → Except OptionFault ServiceSettings
  | .flag option => settings.giveFlag option
  | .value option text => settings.give option text
  | .missingValue _ => .error .missingValue
  | .unneededValue _ => .error .unneededValue
  | .unknown | .words _ => .error .unknownArgument
  | .help => .error .helpRequested
  | .version => .error .versionRequested

/-- Takes in what the command line says, up to the first fault. -/
def ofArguments (arguments : List String) : Except OptionFault ServiceSettings :=
  (ServiceOption.vocabulary.findings arguments).foldlM takeIn {}

/-- A setting that the command line leaves open is taken from its variable. -/
def orVariable {α : Type} (current : Option α) (given : Option String)
    (read : String → Except OptionFault α) : Except OptionFault (Option α) :=
  match current, given with
  | some value, _ => .ok (some value)
  | none, none => .ok none
  | none, some text => (read text).map some

def withEnvironment (settings : ServiceSettings) (environment : String → Option String) :
    Except OptionFault ServiceSettings := do
  let given := ServiceOption.given environment
  let address ← orVariable settings.address (given .bind) readAddress
  let port ← orVariable settings.port (given .port) readPort
  let queueDepth ← orVariable settings.queueDepth (given .queueDepth) readQueueDepth
  let shell ← orVariable settings.shell (given .shell) readShell
  let shellArguments ←
    orVariable settings.shellArguments (given .shellArguments) readShellArguments
  let maxCapture ← orVariable settings.maxCapture (given .maxCapture) readMaxCapture
  let padFinal ← orVariable settings.padFinal (given .padFinal) readPadFinal
  return { address, port, queueDepth, shell, shellArguments, maxCapture, padFinal }

def config (settings : ServiceSettings) : ServiceConfig where
  endpoint :=
    { address := settings.address.getD ServiceConfig.defaultAddress
      port := settings.port.getD Wire.defaultPort }
  queueDepth := settings.queueDepth.getD ServiceConfig.defaultQueueDepth
  transmission :=
    { chunkSize := ServiceConfig.defaultChunkSize
      padFinal := settings.padFinal.getD false }
  shell :=
    { program := settings.shell.getD ServiceConfig.defaultShell
      arguments := settings.shellArguments.getD ServiceConfig.defaultShellArguments
      maxCapture := settings.maxCapture.getD ServiceConfig.defaultMaxCapture }

end ServiceSettings

namespace ServiceConfig

/-- The configuration that a command line and an environment give. -/
def ofArguments (arguments : List String) (environment : String → Option String) :
    Except OptionFault ServiceConfig :=
  match ServiceSettings.ofArguments arguments with
  | .error fault => .error fault
  | .ok settings => (settings.withEnvironment environment).map ServiceSettings.config

end ServiceConfig
end DatagramShell
