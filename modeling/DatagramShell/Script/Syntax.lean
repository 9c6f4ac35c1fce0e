/-!
# Shell scripts

The language in which command lines are written: words with their quotations and expansions, simple
commands with assignments and redirections, pipelines, lists and the compound commands.  A script is
a row of bytes; each is represented by the character of the same number.
-/

namespace DatagramShell
namespace Script

abbrev Text := List Char

/-- What is done with the value of a parameter.  Where it matters, `orEmpty` says that an empty
value counts as unset. -/
inductive Modifier where
  | value
  | length
  | default (orEmpty : Bool)
  | assign (orEmpty : Bool)
  | demand (orEmpty : Bool)
  | alternative (orEmpty : Bool)
  | trimFront (longest : Bool)
  | trimBack (longest : Bool)
  deriving DecidableEq, Repr

/-- Whether the word behind a modifier is a pattern; quotes around the whole do not count there. -/
def Modifier.takesPattern : Modifier → Bool
  | .trimFront _ | .trimBack _ => true
  | _ => false

inductive RedirectKind where
  | read
  | write
  | append
  | readWrite
  | duplicate
  | document
  deriving DecidableEq, Repr

mutual

inductive Part where
  | literal (text : Text) (quoted : Bool)
  | parameter (name : Text) (modifier : Modifier) (word : List Part) (quoted : Bool)
  | arithmetic (expression : List Part) (quoted : Bool)
  | command (body : List Command) (quoted : Bool)

/-- A change of one descriptor; a document's text is its target. -/
inductive Redirect where
  | mk (descriptor : Nat) (kind : RedirectKind) (target : List Part)

inductive Command where
  | simple (assignments : List (Text × List Part)) (words : List (List Part))
      (redirects : List Redirect)
  | redirected (body : Command) (redirects : List Redirect)
  | pipeline (stages : List Command)
  | negated (body : Command)
  | both (first second : Command)
  | either (first second : Command)
  | background (body : Command)
  | group (body : List Command)
  | subshell (body : List Command)
  | branch (condition body : List Command) (otherwise : List Command)
  | loop (whileFailing : Bool) (condition body : List Command)
  | each (name : Text) (words : Option (List (List Part))) (body : List Command)
  | choose (subject : List Part) (clauses : List (List (List Part) × List Command))
  | define (name : Text) (body : Command)

end

abbrev Word := List Part

end Script
end DatagramShell
