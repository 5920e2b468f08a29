import Testbed.Machine.Shell.Syntax

/-! # Words and tokens

A script is read from left to right into tokens: words, redirections, symbols and
line ends. The commands inside of words are left to a reader that is passed in.
-/

namespace Testbed.Machine.Shell

inductive Arrow where
  | file (direction : Direction)
  | copy
  /-- Text that stands in the script, with or without the tabs that its lines begin with. -/
  | document (tabs : Bool)
  deriving DecidableEq, Repr

inductive Token where
  | ending
  | line
  | redirection (stream : Nat) (arrow : Arrow)
  | word (word : Word)
  | symbol (symbol : Symbol)

def Token.name : Token → TokenName
  | ending => .ending
  | line => .line
  | redirection .. => .redirection
  | word _ => .word
  | symbol s => .symbol s

/-- A text in the script that begins on the next line. -/
structure Pending where
  number : Nat
  mark : List Char
  tabs : Bool
  /-- Nothing in it stands for anything else. -/
  verbatim : Bool

/-- What is left to read, and what has been met on the way. -/
structure Source where
  rest : List Char
  line : Nat := 1
  /-- A token that has been put back. -/
  ahead : Option Token := none
  pending : List Pending := []
  documents : List (Nat × Word) := []

abbrev Reader : Type → Type :=
  StateT Source (Except SyntaxError)

namespace Reader

def fail {α : Type} (flaw : Flaw) : Reader α := do
  throw ⟨(← get).line, flaw⟩

def unexpected {α : Type} (t : Token) (wanted : Option TokenName) : Reader α :=
  fail (.unexpected t.name wanted)

def putBack (t : Token) : Reader Unit :=
  modify fun s => { s with ahead := some t }

/-- Takes one character. -/
def skip : Reader Unit :=
  modify fun s =>
    match s.rest with
    | [] => s
    | c :: rest => { s with rest, line := if c = '\n' then s.line + 1 else s.line }

/-- Joins lines that are parted by a backslash and a line feed. -/
def joined : List Char → Nat → List Char × Nat
  | '\\' :: '\n' :: rest, line => joined rest (line + 1)
  | cs, line => (cs, line)

/-- The next character, where lines that belong together have been joined. -/
def peek : Reader (Option Char) := do
  let s ← get
  let (rest, line) := joined s.rest s.line
  set { s with rest, line }
  pure rest.head?

/-- The next character as it stands there. -/
def peekRaw : Reader (Option Char) := do
  pure (← get).rest.head?

/-- Takes the next character if it is the given one. -/
def accept (c : Char) : Reader Bool := do
  if (← peek) = some c then
    skip
    pure true
  else pure false

/-- Takes characters while they satisfy a test. -/
def takeWhile (p : Char → Bool) : Reader (List Char) := do
  let s ← get
  let (taken, rest) := s.rest.span p
  set { s with rest, line := s.line + taken.count '\n' }
  pure taken

end Reader

open Reader

def isNameStart (c : Char) : Bool :=
  c.isAlpha || c = '_'

def isNameChar (c : Char) : Bool :=
  c.isAlphanum || c = '_'

def isName (cs : List Char) : Bool :=
  cs.head?.any isNameStart && cs.all isNameChar

/-- The parameters that a single sign stands for. -/
def isSpecial (c : Char) : Bool :=
  "*@#?-$!".toList.contains c

/-- What the characters of a word stand in. -/
inductive Setting where
  | plain
  | quotes
  | braces (quoted : Bool)
  /-- With so many parentheses open. -/
  | calculation (depth : Nat)
  | document
  deriving DecidableEq, Repr

namespace Setting

def isQuoted : Setting → Bool
  | plain => false
  | quotes | calculation _ | document => true
  | braces quoted => quoted

/-- The characters that a backslash takes the meaning from. -/
def escapable : Setting → List Char
  | quotes => ['$', '\x60', '\"', '\\']
  | braces _ => ['$', '\x60', '\"', '\\', '\x7d']
  | plain | calculation _ | document => ['$', '\x60', '\\']

end Setting

/-- The characters that a word ends before. -/
def endsWord (c : Char) : Bool :=
  " \t\n;&|()<>".toList.contains c

def chars (quoted : Bool) (cs : List Char) : Word :=
  cs.map (.char · quoted)

def orNothing (w : Word) : Word :=
  if w.isEmpty then [.nothing] else w

/-- Reads up to a single quote. -/
def readSingleQuotes : Reader Word := do
  let taken ← takeWhile (· ≠ '\x27')
  if (← peekRaw).isNone then fail .openQuote
  skip
  pure (orNothing (chars true taken))

/-- The text between backquotes, where a backslash keeps some signs from their meaning. -/
def readBackquotes (quoted : Bool) : Nat → Reader (List Char)
  | 0 => fail .openBackquote
  | n + 1 => do
    match ← peekRaw with
    | none => fail .openBackquote
    | some '\x60' =>
      skip
      pure []
    | some '\\' =>
      skip
      match ← peekRaw with
      | none => pure ['\\']
      | some c =>
        skip
        let kept := c = '\\' || c = '\x60' || c = '$' || quoted && c = '\"'
        pure ((if kept then [c] else ['\\', c]) ++ (← readBackquotes quoted n))
    | some c =>
      skip
      pure (c :: (← readBackquotes quoted n))

/-- Reads a text on its own, and goes on behind where it came from. -/
def within {α : Type} (text : List Char) (read : Reader α) : Reader α := do
  let s ← get
  set { s with rest := text, ahead := none }
  let found ← read
  modify fun t => { t with rest := s.rest, ahead := s.ahead, line := s.line }
  pure found

/-- What is said behind the name of a parameter, and whether an empty value counts as missing. -/
def readUse : Reader (Use × Bool) := do
  match ← peek with
  | some '%' =>
    skip
    pure (.trimmed true (← accept '%'), false)
  | some '#' =>
    skip
    pure (.trimmed false (← accept '#'), false)
  | _ =>
    let nonempty ← accept ':'
    let use := match ← peek with
      | some '-' => Use.otherwise false
      | some '=' => .otherwise true
      | some '?' => .demanded
      | some '+' => .instead
      | some '\x7d' => if nonempty then .value else .malformed
      | _ => .malformed
    if use ≠ .malformed then skip
    pure (use, nonempty)

/-- A name, a number or a special sign; nothing if there is none of them. -/
def readParameterName : Reader (List Char) := do
  match ← peek with
  | none => pure []
  | some c =>
    if isNameStart c then takeWhile isNameChar
    else if c.isDigit then takeWhile Char.isDigit
    else if isSpecial c then
      skip
      pure [c]
    else pure []

/-- What stands between braces in front of a word: a parameter, and how it is used. -/
def readParameter : Reader (List Char × Use × Bool) := do
  let s ← get
  let isLength := match (joined s.rest s.line).1 with
    | '#' :: c :: d :: _ => isNameChar c || isSpecial c && d = '\x7d'
    | _ => false
  if isLength then
    let _ ← accept '#'
    let name ← readParameterName
    pure (name, if (← peek) = some '\x7d' then .length else .malformed, false)
  else
    let name ← readParameterName
    if name.isEmpty then pure ([], .malformed, false)
    else if (← peek) = some '\x7d' then pure (name, .value, false)
    else
      let (use, nonempty) ← readUse
      pure (name, use, nonempty)

mutual

/-- Reads what follows a dollar sign. The reader that is passed in reads a command, up to a closing
parenthesis or up to the end. -/
def readDollar (command : Bool → Reader Command) (quoted : Bool) : Nat → Reader Word
  | 0 => fail .openBrace
  | n + 1 => do
    match ← peek with
    | some '(' =>
      skip
      if ← accept '(' then
        pure [.result (← readParts command (.calculation 0) n) quoted]
      else pure [.output (← command true) quoted]
    | some '\x7b' =>
      skip
      let (name, use, nonempty) ← readParameter
      let inner : Setting := match use with
        | .trimmed .. => .braces false
        | _ => .braces quoted
      let word ← readParts command inner n
      skip
      pure [.parameter (String.ofList name) use nonempty word quoted]
    | some c =>
      if isNameStart c then
        pure [.parameter (String.ofList (← takeWhile isNameChar)) .value false [] quoted]
      else if c.isDigit || isSpecial c then
        skip
        pure [.parameter (String.ofList [c]) .value false [] quoted]
      else pure (chars quoted ['$'])
    | none => pure (chars quoted ['$'])

/-- Reads one character of a word, or what stands for something else; nothing where the word ends.
Counts the parentheses of a calculation. -/
def readPart (command : Bool → Reader Command) (setting : Setting) :
    Nat → Reader (Option (Word × Setting))
  | 0 => pure none
  | n + 1 => do
    let quoted := setting.isQuoted
    let one (cs : List Char) (next : Setting) : Reader (Option (Word × Setting)) := do
      skip
      pure (some (chars quoted cs, next))
    match ← peek, setting with
    | none, .quotes => fail .openQuote
    | none, .braces quoted => fail (if quoted then .openQuote else .openBrace)
    | none, .calculation _ => fail .openCalculation
    | none, .plain | none, .document => pure none
    | some '\"', .quotes =>
      skip
      pure none
    | some '\x7d', .braces _ => pure none
    | some '(', .calculation depth => one ['('] (.calculation (depth + 1))
    | some ')', .calculation 0 =>
      skip
      if ← accept ')' then pure none else pure (some (chars quoted [')'], setting))
    | some ')', .calculation (depth + 1) => one [')'] (.calculation depth)
    | some '\"', .calculation _ => one [] setting
    | some '\"', .document => one ['\"'] setting
    | some '\"', _ =>
      skip
      pure (some (orNothing (← readParts command .quotes n), setting))
    | some '\\', _ =>
      skip
      match ← peekRaw with
      | none => pure (some (chars quoted ['\\'], setting))
      | some c =>
        if !quoted || setting.escapable.contains c then
          skip
          pure (some (chars true [c], setting))
        else pure (some (chars quoted ['\\'], setting))
    | some '$', _ =>
      skip
      pure (some (← readDollar command quoted n, setting))
    | some '\x60', _ =>
      skip
      let text ← readBackquotes quoted ((← get).rest.length + 1)
      pure (some ([.output (← within text (command false)) quoted], setting))
    | some c, _ =>
      if c = '\x27' && !quoted then
        skip
        pure (some (← readSingleQuotes, setting))
      else if setting = .plain && endsWord c then pure none
      else one [c] setting

/-- Reads the parts of a word, and what ends it if that belongs to it. -/
def readParts (command : Bool → Reader Command) (setting : Setting) : Nat → Reader Word
  | 0 => pure []
  | n + 1 => do
    match ← readPart command setting n with
    | none => pure []
    | some (parts, setting) => pure (parts ++ (← readParts command setting n))

end

/-- Whether a line, from its beginning, is the mark that ends a text. -/
def readDocumentLines (p : Pending) : Nat → Reader (List Char)
  | 0 => pure []
  | n + 1 => do
    if p.tabs then discard (takeWhile (· = '\t'))
    if (← peekRaw).isNone then pure []
    else
      let line ← takeWhile (· ≠ '\n')
      let feed := if (← peekRaw).isSome then ['\n'] else []
      skip
      if line = p.mark then pure []
      else pure (line ++ feed ++ (← readDocumentLines p n))

/-- Reads the texts that begin behind a line end. -/
def readDocuments (command : Bool → Reader Command) : Reader Unit := do
  for p in (← get).pending do
    let text ← readDocumentLines p ((← get).rest.length + 1)
    let word ←
      if p.verbatim then pure (chars true text)
      else within text (readParts command .document (2 * text.length + 2))
    modify fun s => { s with documents := (p.number, word) :: s.documents }
  modify fun s => { s with pending := [] }

/-! ## Tokens -/

/-- The text of a word in which nothing is quoted and nothing stands for anything else. -/
def Word.plain? (w : Word) : Option (List Char) :=
  w.mapM fun
    | .char c false => some c
    | _ => none

/-- Reads an arrow from its second sign on. -/
def readArrow (stream : Option Nat) (first : Char) : Reader Token := do
  if first = '<' then
    let token := Token.redirection (stream.getD 0)
    if ← accept '<' then
      pure (token (.document (← accept '-')))
    else if ← accept '&' then pure (token .copy)
    else if ← accept '>' then pure (token (.file .both))
    else pure (token (.file .input))
  else
    let token := Token.redirection (stream.getD 1)
    if ← accept '>' then pure (token (.file .appended))
    else if ← accept '&' then pure (token .copy)
    else
      let _ ← accept '|'
      pure (token (.file .output))

/-- Skips blanks and what is said aside, up to the end of its line. -/
def skipBlanks : Nat → Reader Unit
  | 0 => pure ()
  | n + 1 => do
    match ← peek with
    | some ' ' | some '\t' =>
      skip
      skipBlanks n
    | some '#' => discard (takeWhile (· ≠ '\n'))
    | _ => pure ()

/-- A word, or an arrow if a single digit stands right before one. -/
def readWord (command : Bool → Reader Command) : Reader Token := do
  let word ← readParts command .plain (2 * (← get).rest.length + 2)
  match Word.plain? word, ← peek with
  | some [d], some c =>
    if d.isDigit && (c = '<' || c = '>') then
      skip
      readArrow (some (d.toNat - '0'.toNat)) c
    else pure (.word word)
  | _, _ => pure (.word word)

/-- Reads the next token, unless one has been put back. -/
def readToken (command : Bool → Reader Command) : Reader Token := do
  let s ← get
  match s.ahead with
  | some t =>
    set { s with ahead := none }
    pure t
  | none =>
    skipBlanks (s.rest.length + 1)
    match ← peek with
    | none => pure .ending
    | some '\n' =>
      skip
      pure .line
    | some '&' =>
      skip
      pure (.symbol (if ← accept '&' then .both else .ampersand))
    | some '|' =>
      skip
      pure (.symbol (if ← accept '|' then .either else .pipe))
    | some ';' =>
      skip
      pure (.symbol (if ← accept ';' then .branchEnd else .semicolon))
    | some '(' =>
      skip
      pure (.symbol .opening)
    | some ')' =>
      skip
      pure (.symbol .closing)
    | some c =>
      if c = '<' || c = '>' then
        skip
        readArrow none c
      else readWord command

end Testbed.Machine.Shell
