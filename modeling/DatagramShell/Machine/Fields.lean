import DatagramShell.Script.Pattern

/-!
# Fields

The expansion of a word gives pieces of text.  Pieces that came out of an unquoted expansion are
split at the separators; quoted pieces and the literal text of the script are not.  Each separator
that is no blank ends a field, a row of blanks ends one only if something stands before it.
-/

namespace DatagramShell
namespace Script

inductive Segment where
  | piece (text : Text) (quoted splits : Bool)
  /-- Here one argument ends and the next one begins. -/
  | boundary
  deriving DecidableEq, Repr

namespace Segment

def isSpace (character : Char) : Bool :=
  character == ' ' || character == '\t' || character == '\n'

def joined (segments : List Segment) : Text :=
  segments.flatMap fun
    | .piece text _ _ => text
    | .boundary => [' ']

/-- The pieces as a pattern, in which quoted characters stand for themselves. -/
def pattern (segments : List Segment) : List Marked :=
  segments.flatMap fun
    | .piece text quoted _ => text.map (·, quoted)
    | .boundary => [(' ', true)]

end Segment

/-- Fields found so far, the last one first, and the one that is being built, in reverse. -/
structure Splitting where
  fields : List Text := []
  current : Option Text := none
  /-- Whether a blank has ended the last field, so that a separator behind it ends no other. -/
  afterBlank : Bool := false
  deriving DecidableEq, Repr

namespace Splitting

def add (splitting : Splitting) (text : Text) : Splitting :=
  { splitting with
    current := some (text.reverseAux (splitting.current.getD []))
    afterBlank := false }

/-- Ends the field that is being built, if there is one. -/
def close (splitting : Splitting) : Splitting :=
  match splitting.current with
  | none => splitting
  | some field => { splitting with fields := field.reverse :: splitting.fields, current := none }

/-- Ends a field, even an empty one. -/
def closeAlways (splitting : Splitting) : Splitting :=
  { splitting with
    fields := (splitting.current.getD []).reverse :: splitting.fields
    current := none }

def splitAt (separators : Text) (splitting : Splitting) (character : Char) : Splitting :=
  if !separators.contains character then splitting.add [character]
  else if Segment.isSpace character then
    match splitting.current with
    | none => splitting
    | some _ => { splitting.close with afterBlank := true }
  else if splitting.afterBlank then { splitting with afterBlank := false }
  else splitting.closeAlways

def takeIn (separators : Text) (splitting : Splitting) : Segment → Splitting
  | .boundary => { splitting.close with afterBlank := false }
  | .piece text quoted splits =>
    if splits then text.foldl (splitAt separators) splitting
    else if quoted || !text.isEmpty then splitting.add text
    else splitting

end Splitting

def fieldsOf (separators : Text) (segments : List Segment) : List Text :=
  (segments.foldl (Splitting.takeIn separators) {}).close.fields.reverse

end Script
end DatagramShell
