import DatagramShell.Script.Syntax

/-!
# Patterns

The patterns of `case` and of the trimming modifiers: a question mark stands for any character, a
star for any row of characters, and brackets for one character of a set.  Quoted characters stand
for themselves.
-/

namespace DatagramShell
namespace Script

def isInClass (name : Text) (character : Char) : Bool :=
  let code := character.toNat
  let isDigit := 48 ≤ code && code ≤ 57
  let isUpper := 65 ≤ code && code ≤ 90
  let isLower := 97 ≤ code && code ≤ 122
  let isGraph := 33 ≤ code && code ≤ 126
  match String.ofList name with
  | "alpha" => isUpper || isLower
  | "digit" => isDigit
  | "alnum" => isUpper || isLower || isDigit
  | "upper" => isUpper
  | "lower" => isLower
  | "space" => code == 32 || (9 ≤ code && code ≤ 13)
  | "blank" => code == 32 || code == 9
  | "punct" => isGraph && !(isUpper || isLower || isDigit)
  | "print" => isGraph || code == 32
  | "graph" => isGraph
  | "cntrl" => code < 32 || code == 127
  | "xdigit" => isDigit || (65 ≤ code && code ≤ 70) || (97 ≤ code && code ≤ 102)
  | _ => false

/-- A member of a set in brackets. -/
inductive SetMember where
  | range (low high : Char)
  | named (name : Text)
  deriving DecidableEq, Repr

def SetMember.holds (character : Char) : SetMember → Bool
  | .range low high => low ≤ character && character ≤ high
  | .named name => isInClass name character

inductive Glob where
  | one (character : Char)
  | any
  | star
  | set (negated : Bool) (members : List SetMember)
  deriving DecidableEq, Repr

/-- A character of a pattern and whether it was quoted. -/
abbrev Marked := Char × Bool

def readMembers (reversed : List SetMember) : (bound : Nat) → List Marked →
    Option (List SetMember × List Marked)
  | 0, _ => none
  | _ + 1, [] => none
  | bound + 1, (character, quoted) :: pattern =>
    if character = ']' ∧ ¬quoted ∧ reversed ≠ [] then some (reversed.reverse, pattern)
    else
      match character, quoted, pattern with
      | '[', false, (':', _) :: others =>
        let name := (others.takeWhile (·.1 != ':')).map (·.1)
        match others.drop name.length with
        | (':', _) :: (']', _) :: behind => readMembers (.named name :: reversed) bound behind
        | _ => readMembers (.range '[' '[' :: reversed) bound pattern
      | _, _, ('-', false) :: (last, lastQuoted) :: behind =>
        if last = ']' ∧ ¬lastQuoted then
          readMembers (.range character character :: reversed) bound pattern
        else readMembers (.range character last :: reversed) bound behind
      | _, _, _ => readMembers (.range character character :: reversed) bound pattern

/-- What the characters of a pattern stand for; a bracket that is not closed stands for itself. -/
def Glob.ofMarked : (bound : Nat) → List Marked → List Glob
  | 0, _ => []
  | _ + 1, [] => []
  | bound + 1, (character, quoted) :: pattern =>
    if quoted then .one character :: ofMarked bound pattern
    else if character = '*' then .star :: ofMarked bound pattern
    else if character = '?' then .any :: ofMarked bound pattern
    else if character = '[' then
      let (negated, members) :=
        match pattern with
        | ('!', false) :: others => (true, others)
        | _ => (false, pattern)
      match readMembers [] (members.length + 1) members with
      | some (members, behind) => .set negated members :: ofMarked bound behind
      | none => .one character :: ofMarked bound pattern
    else .one character :: ofMarked bound pattern

def Glob.ofPattern (pattern : List Marked) : List Glob :=
  Glob.ofMarked (pattern.length + 1) pattern

def Glob.accepts (character : Char) : Glob → Bool
  | .one expected => character == expected
  | .any => true
  | .star => false
  | .set negated members => members.any (·.holds character) != negated

def Glob.matchesAll : List Glob → Text → Bool
  | [], text => text.isEmpty
  | .star :: pattern, [] => matchesAll pattern []
  | .star :: pattern, character :: text =>
    matchesAll pattern (character :: text) || matchesAll (.star :: pattern) text
  | _ :: _, [] => false
  | element :: pattern, character :: text =>
    element.accepts character && matchesAll pattern text
termination_by pattern text => pattern.length + text.length

/-- Takes the shortest or the longest front away that the pattern stands for. -/
def Glob.trimFront (longest : Bool) (pattern : List Glob) (text : Text) : Text :=
  let lengths := List.range (text.length + 1)
  let lengths := if longest then lengths.reverse else lengths
  match lengths.find? fun length => matchesAll pattern (text.take length) with
  | some length => text.drop length
  | none => text

/-- Takes the shortest or the longest end away that the pattern stands for. -/
def Glob.trimBack (longest : Bool) (pattern : List Glob) (text : Text) : Text :=
  let lengths := List.range (text.length + 1)
  let lengths := if longest then lengths else lengths.reverse
  match lengths.find? fun length => matchesAll pattern (text.drop length) with
  | some length => text.take length
  | none => text

end Script
end DatagramShell
