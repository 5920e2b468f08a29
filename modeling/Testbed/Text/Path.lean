/-! # Paths

A path is a list of names parted by slashes. Empty names and single dots say
nothing, except that a path may begin with a dot.
-/

namespace Testbed.Path

/-- The pieces between slashes, empty ones included. -/
def pieces : List Char → List (List Char)
  | [] => [[]]
  | c :: rest =>
    if c = '/' then [] :: pieces rest
    else
      match pieces rest with
      | [] => [[c]]
      | piece :: more => (c :: piece) :: more

def isAbsolute (path : String) : Bool :=
  path.toList.head? = some '/'

/-- Whether a path can only mean a directory. -/
def endsInSlash (path : String) : Bool :=
  path.toList.getLast? = some '/'

/-- The names of a path, dots included. -/
def names (path : String) : List String :=
  ((pieces path.toList).filter (!·.isEmpty)).map String.ofList

/-- Drops what says nothing at the end: slashes, and dots that follow a slash. The text comes
reversed. -/
def dropIdle : List Char → List Char
  | '/' :: rest => dropIdle rest
  | ['.'] => ['.']
  | '.' :: '/' :: rest => dropIdle rest
  | cs => cs

/-- The path of what a file lies in; empty for a bare name. The root lies in nothing, and neither
does the empty path. -/
def parent? (path : String) : Option String :=
  match dropIdle path.toList.reverse with
  | [] => none
  | cs =>
    let above := cs.dropWhile (· ≠ '/')
    match dropIdle above with
    | [] => some (if above.isEmpty then "" else "/")
    | cs => some (String.ofList cs.reverse)

end Testbed.Path
