import DatagramShell.Script.Syntax

/-!
# The front of a script

Readers take characters off the front of a text.  This module holds those that look at single
characters and at lines: names, blanks, comments, and the documents that stand below the line that
announces them.
-/

namespace DatagramShell
namespace Script

/-- Reads something off the front of a text, or finds that the text does not have its form. -/
abbrev Reader := StateT Text Option

namespace Reader

def rest : Reader Text := get

def startsWith (mark : Text) : Reader Bool := do
  return mark.isPrefixOf (← rest)

def skip (count : Nat) : Reader Unit :=
  modify (·.drop count)

def accept (mark : Text) : Reader Bool := do
  if ← startsWith mark then
    skip mark.length
    return true
  else return false

def expect (mark : Text) : Reader Unit := do
  if ← accept mark then return () else failure

def takeWhile (holds : Char → Bool) : Reader Text := do
  let text ← rest
  set (text.dropWhile holds)
  return text.takeWhile holds

end Reader

/-! ## Characters -/

def isNameStart (character : Char) : Bool :=
  character.isAlpha || character == '_'

def isNameRest (character : Char) : Bool :=
  character.isAlphanum || character == '_'

def isName : Text → Bool
  | [] => false
  | first :: others => isNameStart first && others.all isNameRest

/-- Characters that end a word outside quotes. -/
def endsWord (character : Char) : Bool :=
  [' ', '\t', '\n', ';', '&', '|', '<', '>', '(', ')'].contains character

/-- Characters that open a quotation or an expansion. -/
def isSpecial (character : Char) : Bool :=
  ['\\', '\'', '"', '$', '\x60'].contains character

/-- Parameters whose name is a single sign. -/
def isSpecialParameter (character : Char) : Bool :=
  ['@', '*', '#', '?', '-', '$', '!'].contains character || character.isDigit

/-- Skips blanks, continued line ends and a comment, but no line end. -/
def skipBlanks : Text → Text
  | ' ' :: text => skipBlanks text
  | '\t' :: text => skipBlanks text
  | '\\' :: '\n' :: text => skipBlanks text
  | '#' :: text => text.dropWhile (· != '\n')
  | text => text

def skipLines : (inComment : Bool) → Text → Text
  | true, '\n' :: text => skipLines false text
  | true, _ :: text => skipLines true text
  | false, ' ' :: text => skipLines false text
  | false, '\t' :: text => skipLines false text
  | false, '\n' :: text => skipLines false text
  | false, '\\' :: '\n' :: text => skipLines false text
  | false, '#' :: text => skipLines true text
  | _, text => text

/-- The word at the front, if it is written without quotations and expansions. -/
def frontWord (text : Text) : Text :=
  let word := text.takeWhile fun character => !endsWord character && !isSpecial character
  match text.drop word.length with
  | character :: _ => if isSpecial character then [] else word
  | [] => word

/-- Words that close a construct and therefore end a list of commands. -/
def isCloser (word : Text) : Bool :=
  ["then", "else", "elif", "fi", "do", "done", "esac", "\x7d"].any (·.toList == word)

/-- Takes the backslashes away with which a back-quoted script hides its special characters. -/
def unescapeBackquoted (quoted : Bool) : Text → Text
  | '\\' :: character :: text =>
    if ['\\', '$', '\x60'].contains character || (quoted && character == '"') then
      character :: unescapeBackquoted quoted text
    else '\\' :: character :: unescapeBackquoted quoted text
  | character :: text => character :: unescapeBackquoted quoted text
  | [] => []

/-- A back-quoted script and what stands behind its closing quote. -/
def splitBackquoted (reversed : Text) : Text → Option (Text × Text)
  | '\x60' :: text => some (reversed.reverse, text)
  | '\\' :: character :: text => splitBackquoted (character :: '\\' :: reversed) text
  | character :: text => splitBackquoted (character :: reversed) text
  | [] => none

/-! ## Documents in a script -/

/-- The lines of a document up to its delimiter, and the lines behind it, if it is there. -/
def splitDocument (delimiter : Text) (dropTabs : Bool) (reversed : List Text) :
    List Text → List Text × Option (List Text)
  | [] => (reversed.reverse, none)
  | line :: lines =>
    let line := if dropTabs then line.dropWhile (· == '\t') else line
    if line = delimiter then (reversed.reverse, some lines)
    else splitDocument delimiter dropTabs (line :: reversed) lines

/-- The lines of a text; what follows the last line end is a line as well. -/
def linesOf : Text → List Text
  | [] => [[]]
  | character :: text =>
    if character = '\n' then [] :: linesOf text
    else
      match linesOf text with
      | [] => [[character]]
      | line :: lines => (character :: line) :: lines

/-- Cuts a document out of a text whose first line announces it; one without a delimiter goes up to
the end. -/
def cutDocument (delimiter : Text) (dropTabs : Bool) (text : Text) : Text × Text :=
  let front := text.takeWhile (· != '\n')
  match text.dropWhile (· != '\n') with
  | [] => ([], front)
  | _ :: body =>
    match splitDocument delimiter dropTabs [] (linesOf body) with
    | (document, some behind) =>
      ((document.map (· ++ ['\n'])).flatten, front ++ '\n' :: ['\n'].intercalate behind)
    | (document, none) => (['\n'].intercalate document, front ++ ['\n'])

/-- A word without its quotations, and whether it had any. -/
def plainText : Word → Text × Bool
  | [] => ([], false)
  | .literal text quoted :: parts =>
    let (others, anyQuoted) := plainText parts
    (text ++ others, quoted || anyQuoted)
  | _ :: parts => plainText parts

end Script
end DatagramShell
