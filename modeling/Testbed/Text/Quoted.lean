import Testbed.Text.Unprintable

/-! # Quoted texts

A text in double quotes as it appears inside an error message: quotes,
backslashes, line breaks, tabs and NUL by their short escapes, every other
character that would not be seen by its code point.
-/

namespace Testbed.Text

/-- The lower-case hexadecimal digits of a number, without leading zeros. -/
def hexText (n : Nat) : List Char :=
  Nat.toDigits 16 n

def quoteChar (c : Char) : List Char :=
  match c with
  | '\"' => ['\\', '\"']
  | '\\' => ['\\', '\\']
  | '\n' => ['\\', 'n']
  | '\r' => ['\\', 'r']
  | '\t' => ['\\', 't']
  | '\x00' => ['\\', '0']
  | c =>
    if isUnprintable c then "\\u\x7b".toList ++ hexText c.toNat ++ "\x7d".toList else [c]

def quoted (s : String) : String :=
  String.ofList ('\"' :: (s.toList.flatMap quoteChar ++ ['\"']))

/-- A list of texts, each quoted, in brackets. -/
def quotedList (items : List String) : String :=
  "[" ++ ", ".intercalate (items.map quoted) ++ "]"

end Testbed.Text
