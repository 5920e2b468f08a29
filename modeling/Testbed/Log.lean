import Testbed.Text.Lines
import Testbed.Text.Quoted

/-! # Log lines

A line has a level and a target, the name that filter directives match against.
-/

namespace Testbed.Log

inductive Level where
  | error
  | warn
  | info
  | debug
  deriving DecidableEq, Repr

def Level.name : Level → String
  | error => "ERROR"
  | warn => "WARN"
  | info => "INFO"
  | debug => "DEBUG"

structure Line where
  level : Level
  target : String
  text : String
  deriving DecidableEq, Repr

/-- Characters that could steer a terminal are written by their numbers. -/
def printedChar (c : Char) : List Char :=
  match c with
  | '\x07' => ['\\', 'x', '0', '7']
  | '\x08' => ['\\', 'x', '0', '8']
  | '\x0c' => ['\\', 'x', '0', 'c']
  | '\x1b' => ['\\', 'x', '1', 'b']
  | '\x7f' => ['\\', 'x', '7', 'f']
  | c =>
    if '\x80' ≤ c && c ≤ '\x9f' then "\\u\x7b".toList ++ Text.hexText c.toNat ++ ['\x7d'] else [c]

/-- The text as it is printed: the line itself, and one more after each line feed in the text. -/
def Line.printed (l : Line) : List String :=
  (Text.lines (l.text.toList.flatMap printedChar ++ ['\n'])).map String.ofList

/-- The line without what is printed on lines of its own. -/
def Line.head (l : Line) : Line :=
  { l with text := l.printed.headD "" }

end Testbed.Log
