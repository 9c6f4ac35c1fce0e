import DatagramShell.Script.Syntax

/-!
# Displaying texts

How `cat` shows a text on request: with numbered lines, marked line ends, and characters that are
not visible spelt out.
-/

namespace DatagramShell
namespace Script

structure Display where
  numbers : Bool := false
  /-- Whether only lines that are not empty are numbered. -/
  skipsEmpty : Bool := false
  lineEnds : Bool := false
  tabs : Bool := false
  controls : Bool := false
  /-- Whether one of several empty lines in a row is shown. -/
  squeezes : Bool := false
  deriving DecidableEq, Repr

namespace Display

def pick (display : Display) : Text → Option Display
  | [] => some display
  | 'n' :: letters => pick { display with numbers := true } letters
  | 'b' :: letters => pick { display with numbers := true, skipsEmpty := true } letters
  | 'E' :: letters => pick { display with lineEnds := true } letters
  | 'T' :: letters => pick { display with tabs := true } letters
  | 'v' :: letters => pick { display with controls := true } letters
  | 's' :: letters => pick { display with squeezes := true } letters
  | 'e' :: letters => pick { display with controls := true, lineEnds := true } letters
  | 't' :: letters => pick { display with controls := true, tabs := true } letters
  | 'A' :: letters => pick { display with controls := true, lineEnds := true, tabs := true } letters
  | 'u' :: letters => pick display letters
  | _ => none

def pickLong (display : Display) (name : Text) : Option Display :=
  match String.ofList name with
  | "number" => display.pick ['n']
  | "number-nonblank" => display.pick ['b']
  | "show-ends" => display.pick ['E']
  | "show-tabs" => display.pick ['T']
  | "show-nonprinting" => display.pick ['v']
  | "show-all" => display.pick ['A']
  | "squeeze-blank" => display.pick ['s']
  | _ => none

def ofArguments (display : Display) : List Text → Option (Display × List Text)
  | [] => some (display, [])
  | ['-', '-'] :: files => some (display, files)
  | ('-' :: '-' :: name) :: others =>
    match display.pickLong name with
    | some display => ofArguments display others
    | none => none
  | ('-' :: letter :: letters) :: others =>
    match display.pick (letter :: letters) with
    | some display => ofArguments display others
    | none => none
  | file :: others =>
    (ofArguments display others).map fun (display, files) => (display, file :: files)

def spellLow (code : Nat) : Text :=
  if code < 32 then ['^', Char.ofNat (code + 64)]
  else if code = 127 then ['^', '?']
  else [Char.ofNat code]

def spell (display : Display) (character : Char) : Text :=
  if character = '\t' then (if display.tabs then ['^', 'I'] else ['\t'])
  else if display.controls then
    if character.toNat < 128 then spellLow character.toNat
    else 'M' :: '-' :: spellLow (character.toNat - 128)
  else [character]

/-- A place in a text that is being shown; what has been shown is kept in reverse. -/
structure Place where
  reversed : Text := []
  /-- The number of the last numbered line. -/
  number : Nat := 0
  atLineStart : Bool := true
  /-- How many empty lines have just been seen. -/
  emptyLines : Nat := 0

def Place.write (place : Place) (text : Text) : Place :=
  { place with reversed := text.reverseAux place.reversed }

/-- Numbers the line that begins here. -/
def Place.enumerate (place : Place) : Place :=
  let digits := Nat.toDigits 10 (place.number + 1)
  let place := place.write (List.replicate (6 - digits.length) ' ' ++ digits ++ ['\t'])
  { place with number := place.number + 1 }

def step (display : Display) (place : Place) (character : Char) : Place :=
  if character = '\n' then
    if place.atLineStart then
      if display.squeezes && 0 < place.emptyLines then place
      else
        let place := if display.numbers && !display.skipsEmpty then place.enumerate else place
        let place := place.write (if display.lineEnds then ['$', '\n'] else ['\n'])
        { place with emptyLines := place.emptyLines + 1 }
    else
      let place := place.write (if display.lineEnds then ['$', '\n'] else ['\n'])
      { place with atLineStart := true, emptyLines := 0 }
  else
    let place := if place.atLineStart && display.numbers then place.enumerate else place
    { place.write (display.spell character) with atLineStart := false, emptyLines := 0 }

def render (display : Display) (text : Text) : Text :=
  (text.foldl display.step {}).reversed.reverse

end Display
end Script
end DatagramShell
