/-! # Blank characters

The characters with the property White_Space, and what is cut with them: the
ends of a text, its first word. Texts are cut as lists of characters.
-/

namespace Testbed.Text

/-- A character with the property White_Space, non-ASCII ones included. -/
def isBlank (c : Char) : Bool :=
  ('\t' ≤ c && c ≤ '\r') || c = ' ' || c = '\u0085' || c = '\u00a0' || c = '\u1680' ||
    ('\u2000' ≤ c && c ≤ '\u200a') || c = '\u2028' || c = '\u2029' || c = '\u202f' ||
    c = '\u205f' || c = '\u3000'

/-- Drops every character that `p` accepts from both ends. -/
def strip (p : Char → Bool) (cs : List Char) : List Char :=
  ((cs.dropWhile p).reverse.dropWhile p).reverse

/-- Drops the blanks at both ends. -/
def trim (s : String) : String :=
  String.ofList (strip isBlank s.toList)

/-- The first run of characters that are not blank, empty if there is none. -/
def firstWord (cs : List Char) : List Char :=
  (cs.dropWhile isBlank).takeWhile fun c => !isBlank c

@[simp] theorem strip_nil (p : Char → Bool) : strip p [] = [] := rfl

end Testbed.Text
