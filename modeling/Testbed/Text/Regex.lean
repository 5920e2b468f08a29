import Testbed.Text.Alphanumeric

/-! # Regular expressions

Which texts are regular expressions: groups are closed, repetitions have
something to repeat, classes and escapes are known. Word boundaries and counted
repetitions are not taken.
-/

namespace Testbed.Text.Regex

/-- What an escape stands for. -/
inductive Escaped where
  | character (c : Char)
  | set
  | position
  deriving DecidableEq, Repr

def hexDigit? (c : Char) : Option Nat :=
  if c.isDigit then some (c.toNat - '0'.toNat)
  else if 'a' ≤ c && c ≤ 'f' then some (c.toNat - 'a'.toNat + 10)
  else if 'A' ≤ c && c ≤ 'F' then some (c.toNat - 'A'.toNat + 10)
  else none

/-- A character by exactly so many hexadecimal digits of its code point. -/
def codePoint? (count : Nat) (cs : List Char) : Option (Escaped × List Char) := do
  let digits ← (cs.take count).mapM hexDigit?
  let value := digits.foldl (fun n d => 16 * n + d) 0
  if digits.length = count && value.isValidChar then
    pure (.character (Char.ofNat value), cs.drop count)
  else none

/-- Reads an escape behind its backslash. -/
def escaped? : List Char → Option (Escaped × List Char)
  | [] => none
  | 'x' :: rest => codePoint? 2 rest
  | 'u' :: rest => codePoint? 4 rest
  | 'U' :: rest => codePoint? 8 rest
  | 'p' :: c :: rest | 'P' :: c :: rest =>
    if "CLMNPSZclmnpsz".toList.contains c then some (.set, rest) else none
  | c :: rest =>
    if "dswDSW".toList.contains c then some (.set, rest)
    else if c = 'A' || c = 'z' then some (.position, rest)
    else if "aftnrv".toList.contains c then some (.character c, rest)
    else if c.toNat < 128 && !c.isAlphanum && c ≠ '<' && c ≠ '>' then some (.character c, rest)
    else none

/-! ## Classes -/

/-- Skips what has a meaning of its own right behind an opening bracket. -/
def classBody (cs : List Char) : List Char :=
  let cs := if cs.head? = some '^' then cs.drop 1 else cs
  match cs with
  | '-' :: rest => rest.dropWhile (· = '-')
  | ']' :: rest => rest
  | cs => cs

def classItem? : List Char → Option (Escaped × List Char)
  | [] => none
  | '\\' :: rest => (escaped? rest).filter (·.1 ≠ .position)
  | c :: rest => some (.character c, rest)

/-- Reads a single item or a range, whose ends are characters in order. -/
def classRange? (cs : List Char) : Option (List Char) := do
  let (first, rest) ← classItem? cs
  match rest with
  | [] => none
  | '-' :: ']' :: _ | '-' :: '-' :: _ => pure rest
  | '-' :: more =>
    let (last, rest) ← classItem? more
    match first, last with
    | .character a, .character b => if a ≤ b then pure rest else none
    | _, _ => none
  | rest => pure rest

/-- What follows a class, of which so many brackets are open. The first number bounds the steps. -/
def afterClass? : Nat → Nat → List Char → Option (List Char)
  | 0, _, _ | _ + 1, _, [] => none
  | n + 1, depth, '[' :: rest => afterClass? n (depth + 1) (classBody rest)
  | n + 1, depth, ']' :: rest => if depth ≤ 1 then some rest else afterClass? n (depth - 1) rest
  | n + 1, depth, '&' :: '&' :: rest
  | n + 1, depth, '-' :: '-' :: rest
  | n + 1, depth, '~' :: '~' :: rest => afterClass? n depth rest
  | n + 1, depth, cs => (classRange? cs).bind (afterClass? n depth)

/-! ## Groups -/

/-- What stands at the beginning of a group. -/
inductive Opening where
  | plain
  | named (name : List Char)
  /-- Flags without a group, which hold for what follows. -/
  | flags
  deriving DecidableEq, Repr

def isName : List Char → Bool
  | [] => false
  | c :: rest =>
    (c = '_' || isAlphanumeric c && !c.isDigit) &&
      rest.all fun c => c = '_' || c = '.' || c = '[' || c = ']' || isAlphanumeric c

/-- Every flag at most once, and at most one minus sign, in front of a flag. -/
def areFlags (cs : List Char) : Bool :=
  cs.all ("imsURux-".toList.contains ·) && cs.eraseDups.length = cs.length &&
    cs.getLast? ≠ some '-'

/-- Reads the beginning of a group behind its parenthesis. -/
def opening? : List Char → Option (Opening × List Char)
  | '?' :: 'P' :: '<' :: rest | '?' :: '<' :: rest =>
    let name := rest.takeWhile (· ≠ '>')
    if isName name && name.length < rest.length then
      some (.named name, rest.drop (name.length + 1))
    else none
  | '?' :: rest =>
    let flags := rest.takeWhile fun c => c ≠ ':' && c ≠ ')'
    if areFlags flags then
      match rest.drop flags.length with
      | ':' :: rest => some (.plain, rest)
      | ')' :: rest => if flags.isEmpty then none else some (.flags, rest)
      | _ => none
    else none
  | rest => some (.plain, rest)

/-! ## Expressions -/

/-- Whether the rest of an expression is well formed, with so many groups open, the names of
groups that have been given, and something or nothing to repeat. The first number bounds the
steps. -/
def isTail : Nat → Nat → List (List Char) → Bool → List Char → Bool
  | 0, _, _, _, _ => false
  | _ + 1, depth, _, _, [] => depth = 0
  | n + 1, depth, names, repeatable, c :: rest =>
    match c with
    | '(' =>
      match opening? rest with
      | none => false
      | some (.plain, rest) => isTail n (depth + 1) names false rest
      | some (.flags, rest) => isTail n depth names false rest
      | some (.named name, rest) =>
        !names.contains name && isTail n (depth + 1) (name :: names) false rest
    | ')' => 0 < depth && isTail n (depth - 1) names true rest
    | '|' => isTail n depth names false rest
    | '*' | '+' | '?' =>
      let rest := if rest.head? = some '?' then rest.drop 1 else rest
      repeatable && isTail n depth names true rest
    | '\x7b' => false
    | '[' =>
      match afterClass? n 1 (classBody rest) with
      | none => false
      | some rest => isTail n depth names true rest
    | '\\' =>
      match escaped? rest with
      | none => false
      | some (_, rest) => isTail n depth names true rest
    | _ => isTail n depth names true rest

def isWellFormed (cs : List Char) : Bool :=
  isTail (cs.length + 1) 0 [] false cs

end Testbed.Text.Regex
