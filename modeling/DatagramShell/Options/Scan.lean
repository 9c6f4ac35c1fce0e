/-!
# Scanning a command line

Arguments are read from left to right into occurrences of options.  A long option is written
`--name value` or `--name=value`, a short one `-n value`, `-nvalue` or `-n=value`, and short flags
may share one dash.  `--` ends the options.  A program may take a command of free words; then the
first argument that is no option begins it and everything behind it belongs to it.

A value in an argument of its own is settled only when the next argument is read: an argument that
is unknown, or a flag with a value, is found before that value is looked at.
-/

namespace DatagramShell

inductive OptionKind where
  /-- Takes no value. -/
  | flag
  /-- Takes one value, which may not look like an option. -/
  | single
  /-- May be repeated; takes whatever argument follows as its value. -/
  | repeated
  | help
  | version
  deriving DecidableEq, Repr

namespace OptionKind

def takesValue : OptionKind → Bool
  | .single | .repeated => true
  | _ => false

end OptionKind

structure Vocabulary (ι : Type) where
  long? : String → Option ι
  short? : Char → Option ι
  kind : ι → OptionKind
  /-- Whether free words are taken as a command. -/
  takesWords : Bool

/-- What the arguments say, in the order in which it is settled. -/
inductive Finding (ι : Type) where
  | flag (option : ι)
  | value (option : ι) (text : String)
  | missingValue (option : ι)
  | unneededValue (option : ι)
  | unknown
  | help
  | version
  | words (command : List String)
  deriving DecidableEq, Repr

/-- What is still open between two arguments. -/
inductive Pending (ι : Type) where
  | settled
  /-- An option whose value must come next. -/
  | awaiting (option : ι)
  /-- An option whose value stood in the last argument. -/
  | holding (option : ι) (text : String)
  deriving DecidableEq, Repr

namespace Pending

variable {ι : Type}

def settle : Pending ι → List (Finding ι)
  | .settled => []
  | .awaiting option => [.missingValue option]
  | .holding option text => [.value option text]

end Pending

inductive ArgumentForm where
  | escape
  | long (name : String) (value : Option String)
  | short (letters : List Char)
  | plain
  deriving DecidableEq, Repr

namespace ArgumentForm

/-- The name in front of the first equals sign, and the value behind it. -/
def splitName (text : List Char) : String × Option String :=
  match text.dropWhile (· != '=') with
  | [] => (String.ofList text, none)
  | _ :: value => (String.ofList (text.takeWhile (· != '=')), some (String.ofList value))

def ofText (argument : String) : ArgumentForm :=
  match argument.toList with
  | ['-', '-'] => .escape
  | '-' :: '-' :: text => .long (splitName text).1 (splitName text).2
  | ['-'] => .plain
  | '-' :: letters => .short letters
  | _ => .plain

end ArgumentForm

namespace Vocabulary

variable {ι : Type}

def finding (vocabulary : Vocabulary ι) (option : ι) : Finding ι :=
  match vocabulary.kind option with
  | .help => .help
  | .version => .version
  | _ => .flag option

/-- What one argument says, and what it leaves open; reading stops where nothing is left open. -/
abbrev Step (ι : Type) := List (Finding ι) × Option (Pending ι)

/-- A row of short options behind one dash; an unknown letter ends the reading. -/
def scanLetters (vocabulary : Vocabulary ι) (pending : Pending ι) :
    List Char → Step ι
  | [] => (pending.settle, some .settled)
  | letter :: letters =>
    match vocabulary.short? letter with
    | none => ([.unknown], none)
    | some option =>
      if (vocabulary.kind option).takesValue then
        match letters with
        | [] => (pending.settle, some (.awaiting option))
        | '=' :: text => (pending.settle ++ [.value option (String.ofList text)], some .settled)
        | text => (pending.settle ++ [.value option (String.ofList text)], some .settled)
      else
        let (findings, next) := vocabulary.scanLetters .settled letters
        (pending.settle ++ vocabulary.finding option :: findings, next)

/-- Whether the argument that follows is the open option's value, whatever it looks like. -/
def takesAnything (vocabulary : Vocabulary ι) : Pending ι → Bool
  | .awaiting option => vocabulary.kind option == .repeated
  | _ => false

/-- Free words: the command, if the program takes one. -/
def scanWords (vocabulary : Vocabulary ι) (pending : Pending ι) (words : List String) :
    List (Finding ι) :=
  if words = [] then pending.settle
  else if vocabulary.takesWords then pending.settle ++ [.words words]
  else [.unknown]

/-- An argument that is no option is the value that is awaited, or else the first free word. -/
def stepPlain (vocabulary : Vocabulary ι) (pending : Pending ι) (argument : String)
    (following : List String) : Step ι :=
  match pending with
  | .awaiting option => ([], some (.holding option argument))
  | _ => (vocabulary.scanWords pending (argument :: following), none)

def stepLong (vocabulary : Vocabulary ι) (pending : Pending ι) (option : ι)
    (value : Option String) : Step ι :=
  match (vocabulary.kind option).takesValue, value with
  | true, none => (pending.settle, some (.awaiting option))
  | true, some text => (pending.settle ++ [.value option text], some .settled)
  | false, none => (pending.settle ++ [vocabulary.finding option], some .settled)
  | false, some _ => ([.unneededValue option], none)

/-- Reads one argument; `following` are the ones behind it. -/
def step (vocabulary : Vocabulary ι) (pending : Pending ι) (argument : String)
    (following : List String) : Step ι :=
  if vocabulary.takesAnything pending then vocabulary.stepPlain pending argument following
  else
    match ArgumentForm.ofText argument with
    | .escape => (vocabulary.scanWords pending following, none)
    | .plain => vocabulary.stepPlain pending argument following
    | .long name value =>
      match vocabulary.long? name with
      | some option => vocabulary.stepLong pending option value
      | none =>
        if vocabulary.takesWords then vocabulary.stepPlain pending argument following
        else ([.unknown], none)
    | .short letters =>
      if vocabulary.takesWords && letters.any fun letter => (vocabulary.short? letter).isNone then
        vocabulary.stepPlain pending argument following
      else vocabulary.scanLetters pending letters

/-- Reads the arguments; `pending` is what the ones before have left open. -/
def scan (vocabulary : Vocabulary ι) (pending : Pending ι) : List String → List (Finding ι)
  | [] => pending.settle
  | argument :: arguments =>
    match vocabulary.step pending argument arguments with
    | (findings, none) => findings
    | (findings, some next) => findings ++ vocabulary.scan next arguments

def findings (vocabulary : Vocabulary ι) (arguments : List String) : List (Finding ι) :=
  vocabulary.scan .settled arguments

end Vocabulary

/-! ## What keeps a program from starting -/

/-- Why a command line is not carried out: something in it is wrong, or it only asks for the help
text or the version. -/
inductive OptionFault where
  /-- An option stands at the end, or in front of another one, without its value. -/
  | missingValue
  /-- A value does not have the form or the range of its option. -/
  | unreadableValue
  /-- A variable that switches a flag is neither `true` nor `false`. -/
  | unreadableFlag
  | unknownArgument
  /-- An option that may stand once stands twice. -/
  | repeatedOption
  /-- A flag is written with a value. -/
  | unneededValue
  /-- Nothing to do is named. -/
  | missingCommand
  /-- Two things to do are named that exclude each other. -/
  | conflictingCommand
  | helpRequested
  | versionRequested
  deriving DecidableEq, Repr

namespace OptionFault

/-- The status with which a program ends that does not start its work. -/
def exitStatus : OptionFault → Nat
  | .helpRequested | .versionRequested => 0
  | _ => 2

end OptionFault

/-- Reads the value of an option that may stand once. -/
def readOnce {α : Type} (current : Option α) (read : String → Except OptionFault α)
    (text : String) : Except OptionFault (Option α) :=
  match current with
  | some _ => .error .repeatedOption
  | none => (read text).map some

def readWith {α : Type} (read : String → Option α) (text : String) : Except OptionFault α :=
  match read text with
  | none => .error .unreadableValue
  | some value => .ok value

end DatagramShell
