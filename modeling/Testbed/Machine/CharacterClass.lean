/-! # Named classes of characters -/

namespace Testbed.Machine

/-- The classes that patterns know by name, as ranges of ASCII characters. -/
def characterClasses : List (String × List (Char × Char)) := [
  ("alnum", [('0', '9'), ('A', 'Z'), ('a', 'z')]), ("alpha", [('A', 'Z'), ('a', 'z')]),
  ("blank", [('\t', '\t'), (' ', ' ')]), ("cntrl", [('\x00', '\x1f'), ('\x7f', '\x7f')]),
  ("digit", [('0', '9')]), ("graph", [('!', '~')]), ("lower", [('a', 'z')]),
  ("print", [(' ', '~')]), ("punct", [('!', '/'), (':', '@'), ('[', '\x60'), ('\x7b', '~')]),
  ("space", [('\t', '\r'), (' ', ' ')]), ("upper", [('A', 'Z')]),
  ("xdigit", [('0', '9'), ('A', 'F'), ('a', 'f')])]

def inRanges (ranges : List (Char × Char)) (c : Char) : Bool :=
  ranges.any fun (low, high) => low ≤ c && c ≤ high

/-- A letter, a digit or an underscore. -/
def isWordCharacter (c : Char) : Bool :=
  c.isAlphanum || c = '_'

end Testbed.Machine
