import DatagramShell.Script.Arithmetic

/-!
# Escapes and formats

The backslash escapes that the printing commands understand, and the formats of `printf`: a format
is used again as long as it takes arguments and some are left.
-/

namespace DatagramShell
namespace Script

/-- The character that `start` and up to `most` more octal digits name, and the text behind them. -/
def takeOctal (start most : Nat) (text : Text) : Char × Text :=
  let digits := (text.take most).takeWhile isOctal
  let value := digits.foldl (fun total digit => total * 8 + (digit.toNat - 48)) start
  (Char.ofNat (value % 256), text.drop digits.length)

def escapeLetter? : Char → Option Char
  | 'a' => some '\x07'
  | 'b' => some '\x08'
  | 'f' => some '\x0c'
  | 'n' => some '\n'
  | 'r' => some '\r'
  | 't' => some '\t'
  | 'v' => some '\x0b'
  | '\\' => some '\\'
  | _ => none

def takeHex? (text : Text) : Option (Char × Text) :=
  let digits := (text.take 2).takeWhile isHexDigit
  if digits.isEmpty then none
  else some (Char.ofNat (digitsValue 16 digits), text.drop digits.length)

/-- The character that is meant behind a backslash, and the text that follows it.  The printing
program knows more escapes than the shell. -/
def escaped? (ofProgram : Bool) : Text → Option (Char × Text)
  | [] => none
  | letter :: text =>
    if letter = '0' then some (takeOctal 0 3 text)
    else if isOctal letter then some (takeOctal (letter.toNat - 48) 2 text)
    else if ofProgram && letter == 'e' then some ('\x1b', text)
    else if ofProgram && letter == 'x' then takeHex? text
    else
      match escapeLetter? letter with
      | some character => some (character, text)
      | none => none

theorem length_of_escaped? {ofProgram : Bool} {text behind : Text} {character : Char}
    (found : escaped? ofProgram text = some (character, behind)) :
    behind.length ≤ text.length := by
  cases text with
  | nil => simp [escaped?] at found
  | cons letter text =>
    simp only [escaped?, takeOctal, takeHex?] at found
    grind

/-- A text with its escapes resolved, kept in reverse, and whether it asks for no more output. -/
def unescapeOnto (ofProgram : Bool) (reversed : Text) : Text → Text × Bool
  | [] => (reversed.reverse, false)
  | '\\' :: 'c' :: _ => (reversed.reverse, true)
  | '\\' :: text =>
    match found : escaped? ofProgram text with
    | some (character, behind) =>
      have := length_of_escaped? found
      unescapeOnto ofProgram (character :: reversed) behind
    | none => unescapeOnto ofProgram ('\\' :: reversed) text
  | character :: text => unescapeOnto ofProgram (character :: reversed) text
termination_by text => text.length
decreasing_by all_goals simp only [List.length_cons]; omega

def unescape (ofProgram : Bool) (text : Text) : Text × Bool :=
  unescapeOnto ofProgram [] text

/-! ## Formats -/

structure Layout where
  left : Bool := false
  plus : Bool := false
  blank : Bool := false
  alternate : Bool := false
  zeros : Bool := false
  width : Nat := 0
  precision : Option Nat := none
  deriving DecidableEq, Repr

namespace Layout

def place (layout : Layout) (text : Text) : Text :=
  let filling := List.replicate (layout.width - text.length) ' '
  if layout.left then text ++ filling else filling ++ text

/-- Sets a number: its sign or lead, then its digits, with zeros in between if that is asked for. -/
def placeNumber (layout : Layout) (lead digits : Text) : Text :=
  let digits :=
    match layout.precision with
    | some precision =>
      if precision = 0 ∧ digits = ['0'] then []
      else List.replicate (precision - digits.length) '0' ++ digits
    | none => digits
  if layout.zeros && !layout.left && layout.precision.isNone then
    lead ++ List.replicate (layout.width - lead.length - digits.length) '0' ++ digits
  else layout.place (lead ++ digits)

def signed (layout : Layout) (value : Int) : Text :=
  let lead :=
    if value < 0 then ['-']
    else if layout.plus then ['+']
    else if layout.blank then [' ']
    else []
  layout.placeNumber lead (Nat.toDigits 10 value.natAbs)

def unsigned (layout : Layout) (base : Nat) (upper : Bool) (value : Int) : Text :=
  let digits := Nat.toDigits base (value % numberCount).toNat
  let digits := if upper then digits.map Char.toUpper else digits
  let lead :=
    if layout.alternate && value != 0 && base == 16 then (if upper then ['0', 'X'] else ['0', 'x'])
    else if layout.alternate && value != 0 && base == 8 then ['0']
    else []
  layout.placeNumber lead digits

end Layout

/-- The number that an argument gives, at most `highest`, and whether the whole of it is a number in
the range. -/
def argumentNumber (highest : Int) (text : Text) : Int × Bool :=
  match text with
  | [] => (0, true)
  | '"' :: character :: _ => (character.toNat, true)
  | '\'' :: character :: _ => (character.toNat, true)
  | _ =>
    let (sign, digits) := splitSign (text.dropWhile fun character => character.isWhitespace)
    match leadingConstant? digits with
    | none => (0, false)
    | some (magnitude, behind) =>
      let value := sign * magnitude
      let bounded := max leastNumber (min highest value)
      (bounded, behind.isEmpty && bounded == value)

/-- What has been printed, kept in reverse, and which arguments are left. -/
structure Printing where
  reversed : Text := []
  arguments : List Text
  consumed : Bool := false
  stopped : Bool := false
  /-- Whether an argument was not the number that it should have been. -/
  faulty : Bool := false
  /-- Whether the format itself has no meaning. -/
  meaningless : Bool := false

namespace Printing

def emit (printing : Printing) (text : Text) : Printing :=
  { printing with reversed := text.reverseAux printing.reversed }

/-- The next argument; one that is missing is empty. -/
def next (printing : Printing) : Text × Printing :=
  match printing.arguments with
  | [] => ([], { printing with consumed := true })
  | argument :: arguments => (argument, { printing with arguments, consumed := true })

def nextNumber (highest : Int) (printing : Printing) : Int × Printing :=
  let (argument, printing) := printing.next
  let (value, wellFormed) := argumentNumber highest argument
  (value, { printing with faulty := printing.faulty || !wellFormed })

end Printing

def readFlags (layout : Layout) : Text → Layout × Text
  | '-' :: text => readFlags { layout with left := true } text
  | '+' :: text => readFlags { layout with plus := true } text
  | ' ' :: text => readFlags { layout with blank := true } text
  | '#' :: text => readFlags { layout with alternate := true } text
  | '0' :: text => readFlags { layout with zeros := true } text
  | text => (layout, text)

/-- A width or a precision: digits, or a star for an argument. -/
def readMeasure (printing : Printing) : Text → Option Int × Printing × Text
  | '*' :: text =>
    let (value, printing) := printing.nextNumber 2147483647
    (some value, printing, text)
  | text =>
    let digits := text.takeWhile Char.isDigit
    let value : Nat := digits.foldl (fun total digit => total * 10 + (digit.toNat - 48)) 0
    (if digits.isEmpty then none else some (value : Int), printing, text.drop digits.length)

/-- Prints by a directive, of which the percent sign has been taken off; `none` if it has no
meaning. -/
def directive (printing : Printing) (text : Text) : Option (Printing × Text) :=
  let (layout, text) := readFlags {} text
  let (width?, printing, text) := readMeasure printing text
  let width := width?.getD 0
  let layout := { layout with width := width.natAbs, left := layout.left || width < 0 }
  let (layout, printing, text) :=
    match text with
    | '.' :: text =>
      let (precision?, printing, text) := readMeasure printing text
      let precision := precision?.getD 0
      let precision := if precision < 0 then none else some precision.toNat
      ({ layout with precision }, printing, text)
    | _ => (layout, printing, text)
  match text with
  | '%' :: text => some (printing.emit ['%'], text)
  | 's' :: text =>
    let (argument, printing) := printing.next
    let argument :=
      match layout.precision with
      | some precision => argument.take precision
      | none => argument
    some (printing.emit (layout.place argument), text)
  | 'b' :: text =>
    let (argument, printing) := printing.next
    let (shown, stops) := unescape false argument
    let shown :=
      match layout.precision with
      | some precision => shown.take precision
      | none => shown
    some ({ printing.emit (layout.place shown) with stopped := stops }, text)
  | 'c' :: text =>
    let (argument, printing) := printing.next
    let shown := if argument.isEmpty then ['\x00'] else argument.take 1
    some (printing.emit (layout.place shown), text)
  | letter :: text =>
    let number (highest : Int) (render : Int → Text) : Option (Printing × Text) :=
      let (value, printing) := printing.nextNumber highest
      some (printing.emit (render value), text)
    let unsigned := number (numberCount - 1)
    match letter with
    | 'd' | 'i' => number greatestNumber layout.signed
    | 'u' => unsigned (layout.unsigned 10 false)
    | 'o' => unsigned (layout.unsigned 8 false)
    | 'x' => unsigned (layout.unsigned 16 false)
    | 'X' => unsigned (layout.unsigned 16 true)
    | _ => none
  | [] => none

/-- Prints by the format once; the bound is larger than the format. -/
def printOnce (printing : Printing) : (bound : Nat) → Text → Printing
  | 0, _ => printing
  | _ + 1, [] => printing
  | bound + 1, '%' :: text =>
    match directive printing text with
    | none => { printing with meaningless := true, stopped := true }
    | some (printing, text) => if printing.stopped then printing else printOnce printing bound text
  | bound + 1, '\\' :: letter :: text =>
    match escapeLetter? letter with
    | some character => printOnce (printing.emit [character]) bound text
    | none =>
      if isOctal letter then
        let (character, text) := takeOctal 0 3 (letter :: text)
        printOnce (printing.emit [character]) bound text
      else printOnce (printing.emit ['\\', letter]) bound text
  | bound + 1, character :: text => printOnce (printing.emit [character]) bound text

/-- Prints by the format again and again, as long as it uses up arguments and some are left. -/
def printAll (format : Text) (printing : Printing) : (bound : Nat) → Printing
  | 0 => printing
  | bound + 1 =>
    let printing := printOnce { printing with consumed := false } (format.length + 1) format
    if printing.stopped || !printing.consumed || printing.arguments.isEmpty then printing
    else printAll format printing bound

def formatted (format : Text) (arguments : List Text) : Text × Nat :=
  let printing := printAll format { arguments } (arguments.length + 1)
  (printing.reversed.reverse,
    if printing.meaningless then 2 else if printing.faulty then 1 else 0)

end Script
end DatagramShell
