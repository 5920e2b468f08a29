import Testbed.Machine.CharacterClass

/-! # Patterns of lines

Regular expressions in two notations, the basic one, where a backslash gives
brackets and bounds their meaning, and the extended one, where it takes it away.
Of all matches at a place the longest counts.
-/

namespace Testbed.Machine

/-- What a pattern can ask of the characters around a place. -/
inductive Border where
  | lineStart
  | lineEnd
  | wordStart
  | wordEnd
  | wordBorder
  | noWordBorder
  deriving DecidableEq, Repr

inductive LinePattern where
  | nothing
  | oneOf (negated : Bool) (ranges : List (Char × Char))
  | any
  | border (b : Border)
  | group (number : Nat) (p : LinePattern)
  /-- What a group has matched. -/
  | again (number : Nat)
  | both (first second : LinePattern)
  | either (first second : LinePattern)
  /-- At least so often, and at most so often if there is a bound. -/
  | repeated (low : Nat) (high : Option Nat) (p : LinePattern)
  deriving Repr

namespace LinePattern

inductive Flaw where
  | openGroup
  | openBracket
  | openBound
  | closingGroup
  | bound
  | bigBound
  | rangeEnd
  | className
  | trailingBackslash
  | backReference
  | nothingToRepeat
  deriving DecidableEq, Repr

def Flaw.text : Flaw → String
  | openGroup => "Unmatched ( or \\("
  | openBracket => "Unmatched [, [^, [:, [., or [="
  | openBound => "Unmatched \\\x7b"
  | closingGroup => "Unmatched ) or \\)"
  | bound => "Invalid content of \\\x7b\\\x7d"
  | bigBound => "Regular expression too big"
  | rangeEnd => "Invalid range end"
  | className => "Invalid character class name"
  | trailingBackslash => "Trailing backslash"
  | backReference => "Invalid back reference"
  | nothingToRepeat => "Invalid preceding regular expression"

/-! ## Matching -/

/-- A place in a line: what is before it, from its end, what is behind it, and what the groups have
matched. -/
structure Place where
  before : List Char := []
  rest : List Char
  groups : List (Nat × List Char) := []
  deriving DecidableEq, Repr

def Place.isAt (p : Place) (b : Border) : Bool :=
  let left := p.before.head?.any isWordCharacter
  let right := p.rest.head?.any isWordCharacter
  match b with
  | .lineStart => p.before.isEmpty
  | .lineEnd => p.rest.isEmpty
  | .wordStart => !left && right
  | .wordEnd => left && !right
  | .wordBorder => left != right
  | .noWordBorder => left == right

def Place.step (p : Place) : List Place :=
  match p.rest with
  | [] => []
  | c :: rest => [{ p with before := c :: p.before, rest }]

/-- The places behind a text, if it is there. -/
def Place.skip (text : List Char) (p : Place) : List Place :=
  if text.isPrefixOf p.rest then
    [{ p with before := text.reverse ++ p.before, rest := p.rest.drop text.length }]
  else []

/-- Goes on from each place as often as it can, farthest first. The number bounds the steps. -/
def repeatedly (step : Place → List Place) (low : Nat) : Nat → Nat → Option Nat → Place → List Place
  | 0, _, _, p => [p]
  | n + 1, done, high, p =>
    let further := if high.any (· ≤ done) then []
      else ((step p).filter fun q => q.rest.length < p.rest.length || done < low).flatMap
        (repeatedly step low n (done + 1) high)
    (if low ≤ done then further ++ [p] else further).eraseDups

/-- All places that a pattern leads to from a place. -/
def leads (anyCase : Bool) : LinePattern → Place → List Place
  | nothing, p => [p]
  | oneOf negated ranges, p =>
    let fits := fun (c : Char) => inRanges ranges c ||
      anyCase && (inRanges ranges c.toLower || inRanges ranges c.toUpper)
    if p.rest.head?.any fun c => fits c != negated then p.step else []
  | any, p => p.step
  | border b, p => if p.isAt b then [p] else []
  | group number r, p =>
    (leads anyCase r p).map fun q =>
      let matched := (q.before.take (p.rest.length - q.rest.length)).reverse
      { q with groups := (number, matched) :: q.groups.filter (·.1 ≠ number) }
  | again number, p =>
    match p.groups.lookup number with
    | some text => p.skip text
    | none => []
  | both r s, p => ((leads anyCase r p).flatMap (leads anyCase s)).eraseDups
  | either r s, p => (leads anyCase r p ++ leads anyCase s p).eraseDups
  | repeated low high r, p =>
    repeatedly (leads anyCase r) low (p.rest.length + low + 1) 0 high p

/-- The farthest of some places, the first of several. -/
def farthest : List Place → Option Place
  | [] => none
  | p :: rest =>
    match farthest rest with
    | none => some p
    | some q => if q.rest.length < p.rest.length then some q else some p

/-- The longest match at a place, as the place behind it. -/
def matchAt (anyCase : Bool) (r : LinePattern) (p : Place) : Option Place :=
  farthest (leads anyCase r p)

/-- The first match at or behind a place: where it begins and where it ends. The number bounds the
steps. -/
def search (anyCase : Bool) (r : LinePattern) : Nat → Place → Option (Place × Place)
  | 0, _ => none
  | n + 1, p =>
    match matchAt anyCase r p with
    | some q => some (p, q)
    | none => (p.step.head?).bind (search anyCase r n)

/-- The first match in a line. -/
def find? (anyCase : Bool) (r : LinePattern) (p : Place) : Option (Place × Place) :=
  search anyCase r (p.rest.length + 1) p

/-! ## Reading -/

inductive Token where
  | piece (p : LinePattern)
  | openGroup
  | closeGroup
  | bar
  | bounds (low : Nat) (high : Option Nat)
  deriving Repr

/-- Reads the inside of brackets, of which some has been read. The number bounds the steps. -/
def bracket : Nat → List (Char × Char) → Bool → List Char →
    Except Flaw (List (Char × Char) × List Char)
  | 0, _, _, _ | _ + 1, _, _, [] => .error .openBracket
  | n + 1, found, first, ']' :: rest =>
    if first then upTo n found ']' rest else .ok (found, rest)
  | n + 1, found, _, '[' :: ':' :: rest =>
    let name := rest.takeWhile (· ≠ ':')
    match rest.drop name.length with
    | ':' :: ']' :: more =>
      match characterClasses.lookup (String.ofList name) with
      | some ranges => bracket n (found ++ ranges) false more
      | none => .error .className
    | _ => .error .openBracket
  | n + 1, found, _, c :: rest => upTo n found c rest
where
  /-- A character, or a range that it begins. -/
  upTo (n : Nat) (found : List (Char × Char)) (low : Char) :
      List Char → Except Flaw (List (Char × Char) × List Char)
    | '-' :: ']' :: rest => bracket n (found ++ [(low, low)]) false ('-' :: ']' :: rest)
    | '-' :: high :: rest =>
      if high < low then .error .rangeEnd else bracket n (found ++ [(low, high)]) false rest
    | rest => bracket n (found ++ [(low, low)]) false rest

/-- The bounds of a repetition, up to what closes them. -/
def readBounds (close : List Char) (cs : List Char) :
    Except Flaw (Nat × Option Nat × List Char) :=
  let number := fun (cs : List Char) =>
    let digits := cs.takeWhile Char.isDigit
    ((String.ofList digits).toNat?, cs.drop digits.length)
  let finish := fun (low : Nat) (high : Option Nat) (cs : List Char) =>
    if !close.isPrefixOf cs then .error (if cs.isEmpty then .openBound else .bound)
    else if high.any (· < low) then .error .bound
    else if 32767 < max low (high.getD 0) then .error .bigBound
    else .ok (low, high, cs.drop close.length)
  match number cs with
  | (low, ',' :: cs) =>
    let (high, cs) := number cs
    finish (low.getD 0) high cs
  | (some low, cs) => finish low (some low) cs
  | (none, cs) => .error (if cs.isEmpty then .openBound else .bound)

def classOf (negated : Bool) (name : String) : LinePattern :=
  oneOf negated ((characterClasses.lookup name).getD [])

def wordRanges : List (Char × Char) :=
  ('_', '_') :: (characterClasses.lookup "alnum").getD []

/-- What a backslash and a character mean in both notations. -/
def escaped? (c : Char) : Option LinePattern :=
  match c with
  | 'w' => some (oneOf false wordRanges)
  | 'W' => some (oneOf true wordRanges)
  | 's' => some (classOf false "space")
  | 'S' => some (classOf true "space")
  | '<' => some (border .wordStart)
  | '>' => some (border .wordEnd)
  | 'b' => some (border .wordBorder)
  | 'B' => some (border .noWordBorder)
  | '\x60' => some (border .lineStart)
  | '\x27' => some (border .lineEnd)
  | c => if c.isDigit && c ≠ '0' then some (again (c.toNat - '0'.toNat)) else none

/-- The token that a character with a meaning stands for, and what is left. -/
def operator (extended : Bool) (c : Char) (rest : List Char) :
    Option (Except Flaw (Token × List Char)) :=
  match c with
  | '(' => some (.ok (.openGroup, rest))
  | ')' => some (.ok (.closeGroup, rest))
  | '|' => some (.ok (.bar, rest))
  | '+' => some (.ok (.bounds 1 none, rest))
  | '?' => some (.ok (.bounds 0 (some 1), rest))
  | '\x7b' =>
    some <| (readBounds (if extended then ['\x7d'] else ['\\', '\x7d']) rest).map
      fun (low, high, rest) => (.bounds low high, rest)
  | _ => none

/-- Whether a pattern can begin behind these tokens, which are read from the last. -/
def atStart : List Token → Bool
  | [] | .openGroup :: _ | .bar :: _ => true
  | _ => false

/-- Whether a pattern can end in front of these characters. -/
def atEnd (cs : List Char) : Bool :=
  match cs with
  | [] | '\\' :: ')' :: _ | '\\' :: '|' :: _ => true
  | _ => false

def literal (c : Char) : LinePattern :=
  oneOf false [(c, c)]

/-- The tokens of a pattern, from the last to the first. The number bounds the steps. -/
def tokens (extended : Bool) : Nat → List Token → List Char → Except Flaw (List Token)
  | 0, found, _ | _ + 1, found, [] => .ok found
  | _ + 1, _, ['\\'] => .error .trailingBackslash
  | n + 1, found, '\\' :: c :: rest =>
    match (if extended then none else operator false c rest) with
    | some (.error flaw) => .error flaw
    | some (.ok (token, rest)) =>
      match token, atStart found with
      | .bounds .., true =>
        if c = '\x7b' then .error .nothingToRepeat
        else tokens extended n (.piece (literal c) :: found) rest
      | token, _ => tokens extended n (token :: found) rest
    | none => tokens extended n (.piece ((escaped? c).getD (literal c)) :: found) rest
  | n + 1, found, '[' :: rest =>
    let (negated, inside) := match rest with
      | '^' :: inside => (true, inside)
      | inside => (false, inside)
    match bracket (inside.length + 1) [] true inside with
    | .error flaw => .error flaw
    | .ok (ranges, rest) => tokens extended n (.piece (oneOf negated ranges) :: found) rest
  | n + 1, found, '.' :: rest => tokens extended n (.piece any :: found) rest
  | n + 1, found, '*' :: rest =>
    let anchored := match found with
      | .piece (border .lineStart) :: before => atStart before
      | _ => false
    if atStart found || !extended && anchored then
      tokens extended n (if extended then found else .piece (literal '*') :: found) rest
    else tokens extended n (.bounds 0 none :: found) rest
  | n + 1, found, '^' :: rest =>
    let meant := extended || atStart found
    tokens extended n (.piece (if meant then border .lineStart else literal '^') :: found) rest
  | n + 1, found, '$' :: rest =>
    let meant := extended || atEnd rest
    tokens extended n (.piece (if meant then border .lineEnd else literal '$') :: found) rest
  | n + 1, found, c :: rest =>
    match (if extended then operator true c rest else none) with
    | some (.ok (.bounds low high, more)) =>
      if atStart found then
        if c = '\x7b' then .error .nothingToRepeat else tokens extended n found rest
      else tokens extended n (.bounds low high :: found) more
    | some (.ok (token, rest)) => tokens extended n (token :: found) rest
    | some (.error .openBound) | some (.error .bound) | none =>
      tokens extended n (.piece (literal c) :: found) rest
    | some (.error flaw) => .error flaw

/-- A pattern under construction: the branches that are finished, and the pieces of the last one,
from the last to the first. -/
structure Draft where
  branches : List LinePattern := []
  pieces : List LinePattern := []
  number : Nat := 0

def Draft.branch (d : Draft) : LinePattern :=
  match d.pieces with
  | [] => nothing
  | last :: before => before.foldl (fun whole piece => both piece whole) last

def Draft.whole (d : Draft) : LinePattern :=
  match d.branches with
  | [] => d.branch
  | last :: before => .either (before.foldl (fun whole b => .either b whole) last) d.branch

/-- Puts tokens together, with the drafts around the innermost one. A closing bracket without an
opening one may stand for itself. The number is that of the groups that have been opened. -/
def assemble (lenient : Bool) : Nat → Draft → List Draft → List Token → Except Flaw LinePattern
  | _, d, [], [] => .ok d.whole
  | _, _, _ :: _, [] => .error .openGroup
  | groups, d, outer, .piece (again k) :: rest =>
    if groups < k then .error .backReference
    else assemble lenient groups { d with pieces := again k :: d.pieces } outer rest
  | groups, d, outer, .piece p :: rest =>
    assemble lenient groups { d with pieces := p :: d.pieces } outer rest
  | groups, d, outer, .openGroup :: rest =>
    assemble lenient (groups + 1) { number := groups + 1 } (d :: outer) rest
  | groups, d, [], .closeGroup :: rest =>
    if lenient then assemble lenient groups { d with pieces := literal ')' :: d.pieces } [] rest
    else .error .closingGroup
  | groups, d, above :: outer, .closeGroup :: rest =>
    assemble lenient groups { above with pieces := group d.number d.whole :: above.pieces } outer rest
  | groups, d, outer, .bar :: rest =>
    assemble lenient groups { d with branches := d.branch :: d.branches, pieces := [] } outer rest
  | groups, d, outer, .bounds low high :: rest =>
    match d.pieces with
    | [] => .error .nothingToRepeat
    | p :: before => assemble lenient groups { d with pieces := repeated low high p :: before } outer rest

/-- Reads a pattern in one of the two notations. -/
def parse (extended : Bool) (text : String) : Except Flaw LinePattern :=
  match tokens extended (text.length + 1) [] text.toList with
  | .error flaw => .error flaw
  | .ok found => assemble extended 0 {} [] found.reverse

/-- A pattern that matches a text as it is. -/
def exactly : List Char → LinePattern
  | [] => nothing
  | [c] => literal c
  | c :: rest => both (literal c) (exactly rest)

/-- How many groups there are in a pattern. -/
def groupCount : LinePattern → Nat
  | group _ p => p.groupCount + 1
  | both p q | either p q => p.groupCount + q.groupCount
  | repeated _ _ p => p.groupCount
  | _ => 0

end LinePattern

end Testbed.Machine
