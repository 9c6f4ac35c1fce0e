import DatagramShell.Script.Pattern
import DatagramShell.Machine.Escapes

/-!
# Exchanged characters

What `tr` does to a text: it exchanges the characters of one set for those of another, deletes them,
or leaves one of several equal ones in a row.
-/

namespace DatagramShell
namespace Script

def isBracketName (text : Text) : Bool :=
  ["alpha", "digit", "alnum", "upper", "lower", "space", "blank", "punct", "print", "graph",
    "cntrl", "xdigit"].any (·.toList == text)

def allCharacters : Text :=
  (List.range 256).map Char.ofNat

/-- A set of characters with escapes resolved; the flag marks those that were escaped. -/
def unescapeSet : (bound : Nat) → Text → List Marked
  | 0, _ => []
  | _ + 1, [] => []
  | bound + 1, '\\' :: letter :: text =>
    match escapeLetter? letter with
    | some character => (character, true) :: unescapeSet bound text
    | none =>
      if isOctal letter then
        let (character, behind) := takeOctal 0 3 (letter :: text)
        (character, true) :: unescapeSet bound behind
      else (letter, true) :: unescapeSet bound text
  | bound + 1, character :: text => (character, false) :: unescapeSet bound text

/-- A piece of a set: characters in a row, a named class, or one character as often as there is
room.  A range that runs backwards has no meaning. -/
inductive SetPiece where
  | characters (text : Text)
  | named (name : Text)
  | filling (character : Char)
  | backwards
  deriving DecidableEq, Repr

namespace SetPiece

/-- The characters of a piece that may fill up so much room. -/
def text (room : Nat) : SetPiece → Text
  | .characters text => text
  | .named name => allCharacters.filter (isInClass name)
  | .filling character => List.replicate room character
  | .backwards => []

/-- Whether a piece stands for the small or for the capital letters. -/
def isLetterCase : SetPiece → Bool
  | .named name => name = "upper".toList || name = "lower".toList
  | _ => false

/-- At which places of a set its letter cases stand. -/
def casePlaces (place : Nat) : List SetPiece → List Nat
  | [] => []
  | piece :: pieces =>
    let others := casePlaces (place + (piece.text 0).length) pieces
    if piece.isLetterCase then place :: others else others

end SetPiece

def setPieces : (bound : Nat) → List Marked → List SetPiece
  | 0, _ => []
  | _ + 1, [] => []
  | bound + 1, (first, marked) :: others =>
    let plainly : List SetPiece :=
      match others with
      | ('-', false) :: (last, _) :: behind =>
        let codes := (List.range (last.toNat + 1 - first.toNat)).map (· + first.toNat)
        if codes.isEmpty then .backwards :: setPieces bound behind
        else .characters (codes.map Char.ofNat) :: setPieces bound behind
      | _ => .characters [first] :: setPieces bound others
    if first = '[' ∧ ¬marked then
      match others with
      | (':', _) :: named =>
        let name := (named.takeWhile (·.1 != ':')).map (·.1)
        match named.drop name.length with
        | (':', _) :: (']', _) :: behind =>
          if isBracketName name then .named name :: setPieces bound behind
          else plainly
        | _ => plainly
      | ('=', _) :: (character, _) :: ('=', _) :: (']', _) :: behind =>
        .characters [character] :: setPieces bound behind
      | (character, _) :: ('*', false) :: counted =>
        let digits := (counted.takeWhile (·.1.isDigit)).map (·.1)
        match counted.drop digits.length with
        | (']', _) :: behind =>
          let base := if digits.head? = some '0' then 8 else 10
          match (digitsValue? base digits).getD 0 with
          | 0 => .filling character :: setPieces bound behind
          | count => .characters (List.replicate count character) :: setPieces bound behind
        | _ => plainly
      | _ => plainly
    else plainly

def piecesOf (text : Text) : List SetPiece :=
  let marked := unescapeSet (text.length + 1) text
  setPieces (marked.length + 1) marked

/-- The characters of a set that should be as long as another one. -/
def setCharacters (length : Nat) (text : Text) : Text :=
  let pieces := piecesOf text
  let fixed := (pieces.flatMap (SetPiece.text 0)).length
  pieces.flatMap (SetPiece.text (length - fixed))

/-- Whether a set may stand for what others are exchanged for: of the named classes it holds only
letter cases, and each where the first set holds one as well. -/
def canReplace (first second : Text) : Bool :=
  let places := SetPiece.casePlaces 0 (piecesOf first)
  (piecesOf second).all (fun
    | .named name => (SetPiece.named name).isLetterCase
    | _ => true) &&
    (SetPiece.casePlaces 0 (piecesOf second)).all places.contains

structure Exchange where
  complement : Bool := false
  delete : Bool := false
  squeeze : Bool := false
  truncate : Bool := false
  deriving DecidableEq, Repr

namespace Exchange

def pick (exchange : Exchange) : Text → Option Exchange
  | [] => some exchange
  | 'c' :: letters | 'C' :: letters => pick { exchange with complement := true } letters
  | 'd' :: letters => pick { exchange with delete := true } letters
  | 's' :: letters => pick { exchange with squeeze := true } letters
  | 't' :: letters => pick { exchange with truncate := true } letters
  | _ => none

def pickLong (exchange : Exchange) (name : Text) : Option Exchange :=
  match String.ofList name with
  | "complement" => exchange.pick ['c']
  | "delete" => exchange.pick ['d']
  | "squeeze-repeats" => exchange.pick ['s']
  | "truncate-set1" => exchange.pick ['t']
  | _ => none

def ofArguments (exchange : Exchange) : List Text → Option (Exchange × List Text)
  | ['-', '-'] :: sets => some (exchange, sets)
  | ('-' :: '-' :: name) :: others =>
    match exchange.pickLong name with
    | some exchange => ofArguments exchange others
    | none => none
  | ('-' :: letter :: letters) :: others =>
    match exchange.pick (letter :: letters) with
    | some exchange => ofArguments exchange others
    | none => none
  | sets => some (exchange, sets)

def firstSet (exchange : Exchange) (text : Text) : Text :=
  let characters := setCharacters 0 text
  if exchange.complement then allCharacters.filter fun character => !characters.contains character
  else characters

/-- The second set, its last character repeated to the length of the first. -/
def secondSet (first text : Text) : Text :=
  let characters := setCharacters first.length text
  match characters.getLast? with
  | none => []
  | some last => characters ++ List.replicate (first.length - characters.length) last

/-- By what each character is replaced; the last of several replacements counts. -/
def table (first second : Text) : Array Char :=
  (first.zip second).foldl (fun table (source, target) => table.setIfInBounds source.toNat target)
    allCharacters.toArray

/-- Leaves one of several equal characters in a row, if they are in the set. -/
def squeezed (members : Array Bool) (last : Option Char) (reversed : Text) : Text → Text
  | [] => reversed.reverse
  | character :: text =>
    if last = some character ∧ members.getD character.toNat false then
      squeezed members last reversed text
    else squeezed members (some character) (character :: reversed) text

def memberTable (characters : Text) : Array Bool :=
  characters.foldl (fun table character => table.setIfInBounds character.toNat true)
    (Array.replicate 256 false)

def apply (exchange : Exchange) (sets : List Text) (text : Text) : Option Text :=
  if sets.any fun set => (piecesOf set).contains .backwards then none
  else match sets, exchange.delete, exchange.squeeze with
  | [first], true, false =>
    let members := memberTable (exchange.firstSet first)
    some (text.filter fun character => !members.getD character.toNat false)
  | [first, second], true, true =>
    let members := memberTable (exchange.firstSet first)
    let kept := text.filter fun character => !members.getD character.toNat false
    some (squeezed (memberTable (setCharacters 0 second)) none [] kept)
  | [first], false, true =>
    some (squeezed (memberTable (exchange.firstSet first)) none [] text)
  | [first, second], false, squeezes =>
    let source := exchange.firstSet first
    let target := secondSet source second
    if target.isEmpty || !canReplace first second then none
    else
      let replacements :=
        table source (if exchange.truncate then setCharacters source.length second else target)
      let exchanged := text.map fun character => replacements.getD character.toNat character
      some (if squeezes then squeezed (memberTable target) none [] exchanged else exchanged)
  | _, _, _ => none

end Exchange

end Script
end DatagramShell
