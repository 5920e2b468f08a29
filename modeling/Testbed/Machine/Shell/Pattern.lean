import Testbed.Machine.CharacterClass
import Testbed.Machine.FileTree

/-! # Patterns

A pattern matches whole texts: a question mark any character, a star any number of
them, brackets one of several. What is quoted matches itself.
-/

namespace Testbed.Machine.Shell

/-- A character, and whether it is quoted. -/
abbrev Sign : Type :=
  Char × Bool

namespace Pattern

inductive Item where
  | literal (c : Char)
  | any
  | many
  /-- One of the characters between two others, or with `negated` none of them. -/
  | oneOf (negated : Bool) (ranges : List (Char × Char))
  deriving DecidableEq, Repr

/-- Reads a class by its name, behind an opening bracket and a colon. -/
def class? (signs : List Sign) : Option (List (Char × Char) × List Sign) :=
  let name := (signs.takeWhile fun (c, _) => c.isAlpha).map (·.1)
  match signs.drop name.length, characterClasses.lookup (String.ofList name) with
  | (':', _) :: (']', _) :: rest, some ranges => some (ranges, rest)
  | _, _ => none

/-- Reads the inside of brackets, of which some has been read. The number bounds the steps. -/
def bracket? : Nat → List (Char × Char) → List Sign → Option (List (Char × Char) × List Sign)
  | 0, _, _ | _ + 1, _, [] => none
  | n + 1, found, (']', false) :: rest =>
    if found.isEmpty then bracket? n [(']', ']')] rest else some (found, rest)
  | n + 1, found, ('[', false) :: (':', false) :: rest =>
    match class? rest with
    | some (ranges, rest) => bracket? n (found ++ ranges) rest
    | none => bracket? n (found ++ [('[', '[')]) ((':', false) :: rest)
  | n + 1, found, (a, _) :: ('-', false) :: (b, quoted) :: rest =>
    if b = ']' && !quoted then
      bracket? n (found ++ [(a, a)]) (('-', false) :: (b, quoted) :: rest)
    else bracket? n (found ++ [(a, b)]) rest
  | n + 1, found, (a, _) :: rest => bracket? n (found ++ [(a, a)]) rest

/-- Reads a pattern; a bracket that is not closed matches itself. The number bounds the steps. -/
def parse : Nat → List Sign → List Item
  | 0, _ | _ + 1, [] => []
  | n + 1, (c, true) :: rest => .literal c :: parse n rest
  | n + 1, ('?', false) :: rest => .any :: parse n rest
  | n + 1, ('*', false) :: rest => .many :: parse n rest
  | n + 1, ('[', false) :: rest =>
    let (negated, inside) := match rest with
      | ('!', false) :: inside | ('^', false) :: inside => (true, inside)
      | inside => (false, inside)
    match bracket? (inside.length + 1) [] inside with
    | some (ranges, rest) => .oneOf negated ranges :: parse n rest
    | none => .literal '[' :: parse n rest
  | n + 1, (c, false) :: rest => .literal c :: parse n rest

def ofSigns (signs : List Sign) : List Item :=
  parse (signs.length + 1) signs

def Item.accepts (item : Item) (c : Char) : Bool :=
  match item with
  | literal d => c = d
  | any => true
  | many => false
  | oneOf negated ranges => inRanges ranges c != negated

/-- Whether a pattern matches a whole text. -/
def accepts : List Item → List Char → Bool
  | [], cs => cs.isEmpty
  | .many :: items, [] => accepts items []
  | .many :: items, c :: cs => accepts items (c :: cs) || accepts (.many :: items) cs
  | _ :: _, [] => false
  | item :: items, c :: cs => item.accepts c && accepts items cs
termination_by items cs => (items.length, cs.length)

/-- The text without the shortest or the longest beginning or end that a pattern matches. -/
def trim (items : List Item) (atEnd longest : Bool) (cs : List Char) : List Char :=
  let cuts := List.range (cs.length + 1)
  let cuts := if longest = atEnd then cuts else cuts.reverse
  let fits := fun (i : Nat) => accepts items (if atEnd then cs.drop i else cs.take i)
  match cuts.find? fits with
  | none => cs
  | some i => if atEnd then cs.take i else cs.drop i

/-! ## Paths -/

/-- Whether something in a text stands for other characters. -/
def isGlob (signs : List Sign) : Bool :=
  signs.any fun (c, quoted) => !quoted && (c = '*' || c = '?' || c = '[')

/-- The names in a directory that a pattern matches, in order; a dot in front has to be given. -/
def namesIn (files : FileTree) (place : List String) (signs : List Sign) : List String :=
  let fits := fun (name : String) =>
    accepts (ofSigns signs) name.toList &&
      (name.toList.head? ≠ some '.' || signs.head?.any (·.1 = '.'))
  ((files.names place).filter fits).mergeSort fun a b => a ≤ b

/-- Parts signs at slashes. -/
def pieces : List Sign → List (List Sign)
  | [] => [[]]
  | (c, quoted) :: rest =>
    if c = '/' then [] :: pieces rest
    else
      match pieces rest with
      | [] => [[(c, quoted)]]
      | piece :: more => ((c, quoted) :: piece) :: more

def text (signs : List Sign) : String :=
  String.ofList (signs.map (·.1))

/-- The paths that a pattern matches, piece by piece, behind a beginning that is there. -/
def paths (files : FileTree) (before : String) : List (List Sign) → List String
  | [] => [before]
  | piece :: more =>
    let after := if more.isEmpty then "" else "/"
    if isGlob piece then
      let place := (files.resolve (if before.isEmpty then "." else before)).toOption.getD []
      (namesIn files place piece).flatMap fun name => paths files s!"{before}{name}{after}" more
    else
      let path := s!"{before}{text piece}{after}"
      if path.isEmpty || (files.find path).toOption.isSome then paths files path more else []

/-- The paths that a pattern matches, or the text of the pattern if there are none. -/
def expand (files : FileTree) (signs : List Sign) : List String :=
  if isGlob signs then
    match paths files "" (pieces signs) with
    | [] => [text signs]
    | found => found
  else [text signs]

end Pattern

end Testbed.Machine.Shell
