/-! # The language of the command interpreter

A script is a sequence of commands. Commands are made of words, and words of
characters and of parts that stand for a value, the output of a command or the
result of a calculation.
-/

namespace Testbed.Machine.Shell

/-- What is done with the value of a parameter. -/
inductive Use where
  | value
  | length
  /-- A word in place of a missing value, kept from then on or not. -/
  | otherwise (kept : Bool)
  /-- Fails without a value. -/
  | demanded
  /-- A word in place of a value that there is. -/
  | instead
  /-- Without what a pattern matches at one of its ends. -/
  | trimmed (atEnd longest : Bool)
  | malformed
  deriving DecidableEq, Repr

inductive Direction where
  | input
  | output
  | appended
  | both
  deriving DecidableEq, Repr

mutual

inductive Part where
  | char (c : Char) (quoted : Bool)
  /-- A pair of quotes with nothing in it, which makes a word all the same. -/
  | nothing
  /-- With `nonempty` an empty value counts as missing. -/
  | parameter (name : String) (use : Use) (nonempty : Bool) (word : List Part) (quoted : Bool)
  | output (command : Command) (quoted : Bool)
  | result (expression : List Part) (quoted : Bool)

/-- Where a stream, known by its number, goes to or comes from. -/
inductive Redirection where
  | file (stream : Nat) (direction : Direction) (path : List Part)
  /-- The same as another stream; a hyphen closes the stream. -/
  | copy (stream : Nat) (target : List Part)
  /-- Text that stands in the script, by its number. -/
  | document (stream : Nat) (number : Nat)

inductive Command where
  | nothing
  | simple (line : Nat) (assignments : List (String × List Part)) (words : List (List Part))
      (redirections : List Redirection)
  | pipeline (commands : List Command)
  | negated (command : Command)
  | bothOf (first second : Command)
  | eitherOf (first second : Command)
  | sequence (first second : Command)
  | background (command : Command)
  | subshell (body : Command)
  | redirected (body : Command) (redirections : List Redirection)
  | choice (test yes no : Command)
  /-- Runs the body while the test succeeds, or with `inverted` while it fails. -/
  | loop (inverted : Bool) (test body : Command)
  | forEach (name : String) (words : List (List Part)) (body : Command)
  | selection (subject : List Part) (branches : List (List (List Part) × Command))
  | definition (name : String) (body : Command)

end

abbrev Word : Type :=
  List Part

/-- The fixed signs and words of the language. -/
inductive Symbol where
  | semicolon | ampersand | both | either | pipe | opening | closing | branchEnd
  | not | case_ | do_ | done | elif | else_ | esac | fi | for_ | if_ | in_ | then_ | until_
  | while_ | begin_ | end_
  deriving DecidableEq, Repr

namespace Symbol

def text : Symbol → String
  | semicolon => ";"
  | ampersand => "&"
  | both => "&&"
  | either => "||"
  | pipe => "|"
  | opening => "("
  | closing => ")"
  | branchEnd => ";;"
  | not => "!"
  | case_ => "case"
  | do_ => "do"
  | done => "done"
  | elif => "elif"
  | else_ => "else"
  | esac => "esac"
  | fi => "fi"
  | for_ => "for"
  | if_ => "if"
  | in_ => "in"
  | then_ => "then"
  | until_ => "until"
  | while_ => "while"
  | begin_ => "\x7b"
  | end_ => "\x7d"

/-- The words that are symbols where a command can begin. -/
def reserved : List Symbol :=
  [not, case_, do_, done, elif, else_, esac, fi, for_, if_, in_, then_, until_, while_, begin_, end_]

def ofWord? (word : String) : Option Symbol :=
  reserved.find? (·.text = word)

/-- The symbols that no command begins with, as they end a list of commands. -/
def endsList (s : Symbol) : Bool :=
  [closing, branchEnd, do_, done, elif, else_, esac, fi, then_, end_].contains s

end Symbol

/-- What a token is called in a complaint. -/
inductive TokenName where
  | ending
  | line
  | redirection
  | word
  | symbol (symbol : Symbol)
  deriving DecidableEq, Repr

def TokenName.text : TokenName → String
  | ending => "end of file"
  | line => "newline"
  | redirection => "redirection"
  | word => "word"
  | symbol s => s!"\"{s.text}\""

/-- What is wrong with a script. -/
inductive Flaw where
  | unexpected (found : TokenName) (wanted : Option TokenName)
  | openQuote
  | openBrace
  | openCalculation
  | openBackquote
  | loopVariable
  | functionName
  deriving DecidableEq, Repr

def Flaw.text : Flaw → String
  | unexpected found none => s!"{found.text} unexpected"
  | unexpected found (some wanted) => s!"{found.text} unexpected (expecting {wanted.text})"
  | openQuote => "Unterminated quoted string"
  | openBrace => "Missing '\x7d'"
  | openCalculation => "Missing '))'"
  | openBackquote => "EOF in backquote substitution"
  | loopVariable => "Bad for loop variable"
  | functionName => "Bad function name"

structure SyntaxError where
  line : Nat
  flaw : Flaw
  deriving DecidableEq, Repr

end Testbed.Machine.Shell
