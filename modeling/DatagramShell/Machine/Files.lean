import DatagramShell.Failure

/-!
# Files and programs of the machine

The part of the file system that commands can rely on: the standard directories, the devices and the
programs that every machine has.  A program named without a slash is looked for in the search path.
-/

namespace DatagramShell

inductive Utility where
  | shell
  | cat
  | echo
  | head
  | printf
  | test
  | succeed
  | fail
  | exchange
  | count
  deriving DecidableEq, Repr

inductive FileKind where
  | directory
  | plain
  | nullDevice
  | zeroDevice
  | program (utility : Utility)
  deriving DecidableEq, Repr

namespace Utility

def names : List (String × Utility) :=
  [("sh", .shell), ("cat", .cat), ("echo", .echo), ("head", .head), ("printf", .printf),
    ("test", .test), ("[", .test), ("true", .succeed), ("false", .fail), ("tr", .exchange),
    ("wc", .count)]

end Utility

namespace Files

/-- The standard directories below the root. -/
def directories : List String :=
  ["bin", "boot", "dev", "etc", "home", "lib", "media", "mnt", "opt", "proc", "root", "run", "sbin",
    "srv", "sys", "tmp", "usr", "var"]

def usrDirectories : List String :=
  ["bin", "games", "include", "lib", "local", "sbin", "share", "src"]

def localDirectories : List String :=
  ["bin", "sbin"]

/-- The program of that name, where programs are kept. -/
def program? (name : String) : Option FileKind :=
  (Utility.names.lookup name).map .program

/-- What stands at an absolute path, given by its components. -/
def kind? : List String → Option FileKind
  | [] => some .directory
  | [name] => if directories.contains name then some .directory else none
  | ["dev", "null"] => some .nullDevice
  | ["dev", "zero"] => some .zeroDevice
  | ["etc", "passwd"] => some .plain
  | ["etc", "group"] => some .plain
  | ["etc", "hosts"] => some .plain
  | ["bin", name] => program? name
  | ["usr", "bin", name] => program? name
  | ["usr", name] => if usrDirectories.contains name then some .directory else none
  | ["usr", "local", name] => if localDirectories.contains name then some .directory else none
  | _ => none

/-- Walks along the components of a path; `trail` is where the walk has come to, the last component
first.  Only directories lead on. -/
def walk (trail : List String) : List String → Except SystemError FileKind
  | [] =>
    match kind? trail.reverse with
    | some kind => .ok kind
    | none => .error .notFound
  | component :: components =>
    match kind? trail.reverse with
    | none => .error .notFound
    | some .directory =>
      if component = "" ∨ component = "." then walk trail components
      else if component = ".." then walk trail.tail components
      else walk (component :: trail) components
    | some _ => .error .notADirectory

def components (path : String) : List String :=
  (path.toList.splitBy fun first second => first != '/' && second != '/').filterMap fun piece =>
    if piece = ['/'] then none else some (String.ofList piece)

def simplified (components : List String) : List String :=
  (components.foldl (fun trail component =>
    if component = "." then trail
    else if component = ".." then trail.tail
    else component :: trail) []).reverse

/-- What stands at a path.  A relative one is looked for in a directory that holds none of the
files that are known here. -/
def find (path : String) : Except SystemError FileKind :=
  match path.toList with
  | '/' :: _ =>
    let tail := if path.endsWith "/" then ["."] else []
    walk [] (components path ++ tail)
  | _ => if path = "." ∨ path = ".." then .ok .directory else .error .notFound

/-- Where programs are looked for that are named without a slash. -/
def searchPath : List String :=
  ["/usr/local/sbin", "/usr/local/bin", "/usr/sbin", "/usr/bin", "/sbin", "/bin"]

/-- The program to start for what stands at a path. -/
def startable (path : String) : Except SystemError Utility :=
  match find path with
  | .error cause => .error cause
  | .ok (.program utility) => .ok utility
  | .ok _ => .error .permissionDenied

/-- Tries one directory after the other; a file that may not be executed is remembered. -/
def search (name : String) (denied : Bool) : List String → Except SystemError Utility
  | [] => .error (if denied then .permissionDenied else .notFound)
  | directory :: others =>
    match startable (directory ++ "/" ++ name) with
    | .ok utility => .ok utility
    | .error .permissionDenied => search name true others
    | .error _ => search name denied others

def resolve (name : String) : Except SystemError Utility :=
  if name = "" then .error .notFound
  else if name.toList.contains '/' then startable name
  else search name false searchPath

end Files
end DatagramShell
