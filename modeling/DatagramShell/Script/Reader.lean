import DatagramShell.Script.Front

/-!
# Reading scripts

A script is read line by line: each line, with whatever lines its open constructs take up, is one
unit, and a fault is found only when its line is reached.  The first argument of the mutually
recursive readers bounds their nesting; a bound larger than the text is never reached.
-/

namespace DatagramShell
namespace Script

open Reader

def readModifier : Reader Modifier := do
  if ← accept [':', '-'] then return .default true
  else if ← accept [':', '='] then return .assign true
  else if ← accept [':', '?'] then return .demand true
  else if ← accept [':', '+'] then return .alternative true
  else if ← accept ['-'] then return .default false
  else if ← accept ['='] then return .assign false
  else if ← accept ['?'] then return .demand false
  else if ← accept ['+'] then return .alternative false
  else if ← accept ['%', '%'] then return .trimBack true
  else if ← accept ['%'] then return .trimBack false
  else if ← accept ['#', '#'] then return .trimFront true
  else if ← accept ['#'] then return .trimFront false
  else return .value

def readParameterName : Reader Text := do
  match ← rest with
  | character :: _ =>
    if isNameStart character then takeWhile isNameRest
    else if character.isDigit then takeWhile Char.isDigit
    else if isSpecialParameter character then
      skip 1
      return [character]
    else failure
  | [] => failure

/-- Splits an assignment's name off the first part of a word. -/
def assignment? : Word → Option (Text × Word)
  | .literal text false :: parts =>
    let name := text.takeWhile (· != '=')
    if isName name && name.length < text.length then
      some (name, .literal (text.drop (name.length + 1)) false :: parts)
    else none
  | _ => none

mutual

/-- The parts of a word outside quotes, up to a character at which it ends. -/
def readParts (ends : Char → Bool) : Nat → Reader Word
  | 0 => failure
  | bound + 1 => do
    match ← rest with
    | [] => return []
    | character :: text =>
      if ends character then return []
      else if character = '\\' then
        match text with
        | '\n' :: _ =>
          skip 2
          readParts ends bound
        | escaped :: _ =>
          skip 2
          return .literal [escaped] true :: (← readParts ends bound)
        | [] =>
          skip 1
          return [.literal ['\\'] true]
      else if character = '\'' then
        skip 1
        let quoted ← takeWhile (· != '\'')
        expect ['\'']
        return .literal quoted true :: (← readParts ends bound)
      else if character = '"' then
        skip 1
        let quoted ← readQuoted false bound
        expect ['"']
        let quoted := if quoted.isEmpty then [.literal [] true] else quoted
        return quoted ++ (← readParts ends bound)
      else if character = '$' || character = '\x60' then
        let expansion ← readExpansion false bound
        return expansion ++ (← readParts ends bound)
      else
        let plain ← takeWhile fun character => !ends character && !isSpecial character
        return .literal plain false :: (← readParts ends bound)

/-- The parts of a word inside double quotes, or inside the braces of a quoted parameter. -/
def readQuoted (inBraces : Bool) : Nat → Reader Word
  | 0 => failure
  | bound + 1 => do
    match ← rest with
    | [] => failure
    | character :: text =>
      if inBraces && character = '\x7d' then return []
      else if character = '"' then
        if inBraces then
          skip 1
          let quoted ← readQuoted false bound
          expect ['"']
          return quoted ++ (← readQuoted inBraces bound)
        else return []
      else if character = '\\' then
        match text with
        | '\n' :: _ =>
          skip 2
          readQuoted inBraces bound
        | escaped :: _ =>
          skip 2
          let kept :=
            if ['$', '\x60', '"', '\\'].contains escaped || (inBraces && escaped == '\x7d') then
              [escaped]
            else ['\\', escaped]
          return .literal kept true :: (← readQuoted inBraces bound)
        | [] => failure
      else if character = '$' || character = '\x60' then
        let expansion ← readExpansion true bound
        return expansion ++ (← readQuoted inBraces bound)
      else
        let plain ← takeWhile fun character =>
          !(['\\', '"', '$', '\x60'].contains character || (inBraces && character == '\x7d'))
        return .literal plain true :: (← readQuoted inBraces bound)

def readExpansion (quoted : Bool) : Nat → Reader Word
  | 0 => failure
  | bound + 1 => do
    if ← accept ['\x60'] then
      match splitBackquoted [] (← rest) with
      | none => failure
      | some (script, behind) =>
        set (unescapeBackquoted quoted script)
        let body ← readCommands bound
        if (← rest) ≠ [] then failure
        set behind
        return [.command body quoted]
    else if ← accept ['$', '(', '('] then
      let expression ← readArithmetic 0 bound
      return [.arithmetic expression quoted]
    else if ← accept ['$', '('] then
      let body ← readCommands bound
      expect [')']
      return [.command body quoted]
    else if ← accept ['$', '\x7b'] then
      if (← startsWith ['#']) && !(← startsWith ['#', '\x7d']) then
        skip 1
        let name ← readParameterName
        expect ['\x7d']
        return [.parameter name .length [] quoted]
      else
        let name ← readParameterName
        let modifier ← readModifier
        let word ←
          if modifier = .value then pure []
          else if quoted && !modifier.takesPattern then readQuoted true bound
          else readParts (· == '\x7d') bound
        expect ['\x7d']
        return [.parameter name modifier word quoted]
    else
      skip 1
      match ← rest with
      | character :: _ =>
        if isNameStart character then
          return [.parameter (← takeWhile isNameRest) .value [] quoted]
        else if isSpecialParameter character then
          skip 1
          return [.parameter [character] .value [] quoted]
        else return [.literal ['$'] true]
      | [] => return [.literal ['$'] true]

/-- The parts of an arithmetic expression, up to the two parentheses that close it. -/
def readArithmetic (depth : Nat) : Nat → Reader Word
  | 0 => failure
  | bound + 1 => do
    match ← rest with
    | [] => failure
    | character :: text =>
      if character = ')' then
        if depth = 0 then
          expect [')', ')']
          return []
        else
          skip 1
          return .literal [')'] true :: (← readArithmetic (depth - 1) bound)
      else if character = '(' then
        skip 1
        return .literal ['('] true :: (← readArithmetic (depth + 1) bound)
      else if character = '"' then
        skip 1
        readArithmetic depth bound
      else if character = '\\' then
        skip 2
        return .literal ((text.take 1).filter (· != '\n')) true :: (← readArithmetic depth bound)
      else if character = '$' || character = '\x60' then
        let expansion ← readExpansion true bound
        return expansion ++ (← readArithmetic depth bound)
      else
        let plain ← takeWhile fun character =>
          !(['(', ')', '"', '\\', '$', '\x60'].contains character)
        return .literal plain true :: (← readArithmetic depth bound)

def readRedirect (descriptor? : Option Nat) : Nat → Reader Redirect
  | 0 => failure
  | bound + 1 => do
    let reading := descriptor?.getD 0
    let writing := descriptor?.getD 1
    if (← startsWith ['<', '<']) then
      skip 2
      let dropTabs ← accept ['-']
      modify skipBlanks
      let delimiter ← readParts endsWord bound
      let (mark, quoted) := plainText delimiter
      let (document, behind) := cutDocument mark dropTabs (← rest)
      if quoted then
        set behind
        return .mk reading .document [.literal document true]
      else
        set (document ++ ['"'])
        let parts ← readDocument bound
        set behind
        return .mk reading .document parts
    else
      let (descriptor, kind) ←
        if ← accept ['<', '&'] then pure (reading, RedirectKind.duplicate)
        else if ← accept ['<', '>'] then pure (reading, RedirectKind.readWrite)
        else if ← accept ['<'] then pure (reading, RedirectKind.read)
        else if ← accept ['>', '&'] then pure (writing, RedirectKind.duplicate)
        else if ← accept ['>', '>'] then pure (writing, RedirectKind.append)
        else if ← accept ['>', '|'] then pure (writing, RedirectKind.write)
        else if ← accept ['>'] then pure (writing, RedirectKind.write)
        else failure
      modify skipBlanks
      let target ← readParts endsWord bound
      if target.isEmpty then failure
      return .mk descriptor kind target

/-- A document's text, in which double quotes are ordinary; the one put behind it ends it. -/
def readDocument : Nat → Reader Word
  | 0 => failure
  | bound + 1 => do
    let quoted ← readQuoted false bound
    expect ['"']
    if (← rest) = [] then return quoted
    else return quoted ++ .literal ['"'] true :: (← readDocument bound)

def readRedirect? : Nat → Reader (Option Redirect)
  | 0 => failure
  | bound + 1 => do
    modify skipBlanks
    let text ← rest
    let digits := text.takeWhile Char.isDigit
    match text.drop digits.length with
    | '<' :: _ | '>' :: _ =>
      skip digits.length
      let descriptor? := if digits = [] then none else (String.ofList digits).toNat?
      return some (← readRedirect descriptor? bound)
    | _ => return none

def readRedirects : Nat → Reader (List Redirect)
  | 0 => failure
  | bound + 1 => do
    match ← readRedirect? bound with
    | none => return []
    | some redirect => return redirect :: (← readRedirects bound)

def readWords : Nat → Reader (List Word)
  | 0 => failure
  | bound + 1 => do
    modify skipBlanks
    let word ← readParts endsWord bound
    if word.isEmpty then return [] else return word :: (← readWords bound)

/-- The rest of a simple command, or the definition of a function; what has been read of it is kept
in reverse. -/
def readSimple (assignments : List (Text × Word)) (words : List Word)
    (redirects : List Redirect) : Nat → Reader Command
  | 0 => failure
  | bound + 1 => do
    match ← readRedirect? bound with
    | some redirect => readSimple assignments words (redirect :: redirects) bound
    | none =>
      let word ← readParts endsWord bound
      if word.isEmpty then
        match words, ← startsWith ['('] with
        | [[.literal name false]], true =>
          skip 1
          modify skipBlanks
          expect [')']
          modify (skipLines false)
          return .define name (← readCommand bound)
        | _, _ =>
          if assignments.isEmpty && words.isEmpty && redirects.isEmpty then failure
          else return .simple assignments.reverse words.reverse redirects.reverse
      else
        match words, assignment? word with
        | [], some given => readSimple (given :: assignments) words redirects bound
        | _, _ => readSimple assignments (word :: words) redirects bound

/-- The branches of a condition, behind `if` or `elif`. -/
def readBranches : Nat → Reader Command
  | 0 => failure
  | bound + 1 => do
    let condition ← readCommands bound
    expect "then".toList
    let body ← readCommands bound
    if ← accept "elif".toList then
      let otherwise ← readBranches bound
      return .branch condition body [otherwise]
    else if ← accept "else".toList then
      let otherwise ← readCommands bound
      expect "fi".toList
      return .branch condition body otherwise
    else
      expect "fi".toList
      return .branch condition body []

def readPatterns : Nat → Reader (List Word)
  | 0 => failure
  | bound + 1 => do
    modify skipBlanks
    let pattern ← readParts endsWord bound
    if pattern.isEmpty then failure
    modify skipBlanks
    if ← accept ['|'] then return pattern :: (← readPatterns bound)
    else
      expect [')']
      return [pattern]

def readClauses : Nat → Reader (List (List Word × List Command))
  | 0 => failure
  | bound + 1 => do
    modify (skipLines false)
    if frontWord (← rest) = "esac".toList then
      skip 4
      return []
    else
      let _ ← accept ['(']
      let patterns ← readPatterns bound
      let body ← readCommands bound
      if ← accept [';', ';'] then
        return (patterns, body) :: (← readClauses bound)
      else
        expect "esac".toList
        return [(patterns, body)]

def readCommand : Nat → Reader Command
  | 0 => failure
  | bound + 1 => do
    modify skipBlanks
    let word := String.ofList (frontWord (← rest))
    let compound? : Option Command ←
      if word = "if" then
        skip 2
        pure (some (← readBranches bound))
      else if word = "while" || word = "until" then
        skip 5
        let condition ← readCommands bound
        expect "do".toList
        let body ← readCommands bound
        expect "done".toList
        pure (some (.loop (word = "until") condition body))
      else if word = "for" then
        skip 3
        modify skipBlanks
        let name ← takeWhile isNameRest
        if !isName name then failure
        modify (skipLines false)
        let words? ←
          if frontWord (← rest) = "in".toList then do
            skip 2
            pure (some (← readWords bound))
          else pure none
        modify skipBlanks
        let _ ← accept [';']
        modify (skipLines false)
        if frontWord (← rest) = "do".toList then
          skip 2
          let body ← readCommands bound
          expect "done".toList
          pure (some (.each name words? body))
        else failure
      else if word = "case" then
        skip 4
        modify skipBlanks
        let subject ← readParts endsWord bound
        if subject.isEmpty then failure
        modify (skipLines false)
        expect "in".toList
        pure (some (.choose subject (← readClauses bound)))
      else if word = "\x7b" then
        skip 1
        let body ← readCommands bound
        expect ['\x7d']
        pure (some (.group body))
      else if ← accept ['('] then
        let body ← readCommands bound
        expect [')']
        pure (some (.subshell body))
      else if isCloser word.toList then failure
      else pure none
    match compound? with
    | none => readSimple [] [] [] bound
    | some body =>
      let redirects ← readRedirects bound
      return if redirects.isEmpty then body else .redirected body redirects

def readStages : Nat → Reader (List Command)
  | 0 => failure
  | bound + 1 => do
    modify skipBlanks
    if (← startsWith ['|']) && !(← startsWith ['|', '|']) then
      skip 1
      modify (skipLines false)
      let stage ← readCommand bound
      return stage :: (← readStages bound)
    else return []

def readPipeline : Nat → Reader Command
  | 0 => failure
  | bound + 1 => do
    modify skipBlanks
    if frontWord (← rest) = ['!'] then
      skip 1
      modify skipBlanks
      if frontWord (← rest) = ['!'] then failure
      return .negated (← readPipeline bound)
    else
      let first ← readCommand bound
      let others ← readStages bound
      return if others.isEmpty then first else .pipeline (first :: others)

/-- What follows a pipeline in a row of conditions. -/
def readConditions (first : Command) : Nat → Reader Command
  | 0 => failure
  | bound + 1 => do
    modify skipBlanks
    if ← accept ['&', '&'] then
      modify (skipLines false)
      let second ← readPipeline bound
      readConditions (.both first second) bound
    else if ← accept ['|', '|'] then
      modify (skipLines false)
      let second ← readPipeline bound
      readConditions (.either first second) bound
    else return first

/-- A row of conditions and what separates it from the next one: whether more may follow on the same
line. -/
def readItem : Nat → Reader (Command × Bool)
  | 0 => failure
  | bound + 1 => do
    let first ← readPipeline bound
    let item ← readConditions first bound
    modify skipBlanks
    if ← startsWith [';', ';'] then return (item, false)
    else if ← accept [';'] then return (item, true)
    else if ← accept ['&'] then return (.background item, true)
    else return (item, false)

/-- Commands up to the end of the construct that they stand in. -/
def readCommands : Nat → Reader (List Command)
  | 0 => failure
  | bound + 1 => do
    modify (skipLines false)
    let text ← rest
    match text with
    | [] | ')' :: _ | ';' :: ';' :: _ => return []
    | _ =>
      if isCloser (frontWord text) then return []
      else
        let (item, more) ← readItem bound
        if more || (← startsWith ['\n']) then return item :: (← readCommands bound)
        else return [item]

end

def readUnit : Nat → Reader (List Command)
  | 0 => failure
  | bound + 1 => do
    modify skipBlanks
    match ← rest with
    | [] => return []
    | '\n' :: _ =>
      skip 1
      return []
    | _ =>
      let (item, more) ← readItem bound
      if more then return item :: (← readUnit bound)
      else
        match ← rest with
        | [] => return [item]
        | '\n' :: _ =>
          skip 1
          return [item]
        | _ => failure

/-- A script that has been read: its units, and whether a fault ends it. -/
structure Program where
  units : List (List Command)
  faulty : Bool

/-- Reads a script unit by unit; the bound counts the units. -/
def readUnits (depth : Nat) : (bound : Nat) → Text → Program
  | 0, _ => ⟨[], true⟩
  | _ + 1, [] => ⟨[], false⟩
  | bound + 1, text@(_ :: _) =>
    match (readUnit depth).run text with
    | none => ⟨[], true⟩
    | some (commands, rest) =>
      let program := readUnits depth bound rest
      ⟨commands :: program.units, program.faulty⟩

def Program.ofText (text : Text) : Program :=
  readUnits (4 * text.length + 64) (text.length + 1) text

end Script
end DatagramShell
