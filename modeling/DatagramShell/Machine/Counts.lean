import DatagramShell.Machine.Escapes

/-!
# Counts

What `wc` counts of a text, which of the counts it shows, and how they are set.
-/

namespace DatagramShell
namespace Script

structure Counts where
  lines : Nat := 0
  words : Nat := 0
  bytes : Nat := 0
  /-- How wide the widest line is. -/
  width : Nat := 0
  deriving DecidableEq, Repr

structure CountPlace where
  counts : Counts := {}
  inWord : Bool := false
  /-- How wide the line is so far. -/
  column : Nat := 0
  deriving DecidableEq, Repr

namespace CountPlace

/-- Counts a character on.  A word is a row of characters without a blank among them, at least one
of which is visible. -/
def step (place : CountPlace) (character : Char) : CountPlace :=
  let code := character.toNat
  let isVisible := 33 ≤ code && code ≤ 126
  let isBlank := code == 32 || (9 ≤ code && code ≤ 13)
  let column :=
    if code = 9 then place.column + (8 - place.column % 8)
    else if code = 10 ∨ code = 12 ∨ code = 13 then 0
    else if isVisible || code == 32 then place.column + 1
    else place.column
  { counts :=
      { lines := place.counts.lines + if code = 10 then 1 else 0
        words := place.counts.words + if isVisible && !place.inWord then 1 else 0
        bytes := place.counts.bytes + 1
        width := max place.counts.width column }
    inWord := isVisible || (place.inWord && !isBlank)
    column }

end CountPlace

namespace Counts

def of (text : Text) : Counts :=
  (text.foldl CountPlace.step {}).counts

/-- The counts of two texts together; the widest line of both is that of one of them. -/
def add (first second : Counts) : Counts :=
  { lines := first.lines + second.lines
    words := first.words + second.words
    bytes := first.bytes + second.bytes
    width := max first.width second.width }

end Counts

/-- Which counts are shown.  Each character is one byte. -/
structure CountChoice where
  lines : Bool := false
  words : Bool := false
  characters : Bool := false
  bytes : Bool := false
  width : Bool := false
  deriving DecidableEq, Repr

namespace CountChoice

def pick (choice : CountChoice) : Text → Option CountChoice
  | [] => some choice
  | 'l' :: letters => pick { choice with lines := true } letters
  | 'w' :: letters => pick { choice with words := true } letters
  | 'm' :: letters => pick { choice with characters := true } letters
  | 'c' :: letters => pick { choice with bytes := true } letters
  | 'L' :: letters => pick { choice with width := true } letters
  | _ => none

def pickLong (choice : CountChoice) (name : Text) : Option CountChoice :=
  match String.ofList name with
  | "lines" => choice.pick ['l']
  | "words" => choice.pick ['w']
  | "chars" => choice.pick ['m']
  | "bytes" => choice.pick ['c']
  | "max-line-length" => choice.pick ['L']
  | _ => none

def ofArguments (choice : CountChoice) : List Text → Option (CountChoice × List Text)
  | [] => some (choice, [])
  | ['-', '-'] :: files => some (choice, files)
  | ('-' :: '-' :: name) :: others =>
    match choice.pickLong name with
    | some choice => ofArguments choice others
    | none => none
  | ('-' :: letter :: letters) :: others =>
    match choice.pick (letter :: letters) with
    | some choice => ofArguments choice others
    | none => none
  | file :: others => (ofArguments choice others).map fun (choice, files) => (choice, file :: files)

/-- Without a choice, the lines, words and bytes are shown. -/
def orAll (choice : CountChoice) : CountChoice :=
  if choice.lines || choice.words || choice.characters || choice.bytes || choice.width then choice
  else { lines := true, words := true, bytes := true }

def chosen (choice : CountChoice) (counts : Counts) : List Nat :=
  [(choice.lines, counts.lines), (choice.words, counts.words), (choice.characters, counts.bytes),
    (choice.bytes, counts.bytes), (choice.width, counts.width)].filterMap fun (isShown, count) =>
      if isShown then some count else none

/-- A line of counts; a single count of a single text is not filled up. -/
def line (choice : CountChoice) (alone : Bool) (counts : Counts) (name : Option Text) : Text :=
  let numbers := choice.chosen counts
  let width := if alone && numbers.length == 1 then 1 else 7
  let texts := numbers.map fun number =>
    let digits := Nat.toDigits 10 number
    List.replicate (width - digits.length) ' ' ++ digits
  let line := [' '].intercalate texts
  match name with
  | none => line ++ ['\n']
  | some name => line ++ ' ' :: name ++ ['\n']

end CountChoice

end Script
end DatagramShell
