import Testbed.Machine.Tool.LinePattern
import Testbed.Machine.Tool.Options

/-! # Lines that match

Lines in which a pattern matches are written, counted or looked for.
-/

namespace Testbed.Machine

namespace Grep

/-- What is looked for, and what is told about it. -/
structure Request where
  pattern : LinePattern
  anyCase : Bool := false
  wholeWords : Bool := false
  wholeLines : Bool := false
  inverted : Bool := false
  limit : Option Nat := none
  counts : Bool := false
  onlyMatches : Bool := false
  /-- The names of operands in which there are matches, or are none. -/
  names : Option Bool := none
  numbered : Bool := false
  quiet : Bool := false
  /-- Whether each line is told with the name of its operand. -/
  named : Bool := false

/-- Whether there is no word character at either side. -/
def standsAlone (p q : LinePattern.Place) : Bool :=
  !p.before.head?.any isWordCharacter && !q.rest.head?.any isWordCharacter

/-- The longest match at a place that may count. -/
def Request.matchAt (r : Request) (p : LinePattern.Place) : Option LinePattern.Place :=
  let all := LinePattern.leads r.anyCase r.pattern p
  let all := if r.wholeLines then all.filter fun q => p.before.isEmpty && q.rest.isEmpty
    else if r.wholeWords then all.filter (standsAlone p)
    else all
  LinePattern.farthest all

/-- The matches in a line from a place on, none of which is empty or overlaps another one. The number
bounds the steps. -/
def Request.matches (r : Request) : Nat → LinePattern.Place → List String
  | 0, _ => []
  | n + 1, p =>
    let next := fun (q : LinePattern.Place) =>
      match q.step with
      | [] => []
      | q :: _ => Request.matches r n q
    match r.matchAt p with
    | some q =>
      let length := p.rest.length - q.rest.length
      if length = 0 then next p
      else String.ofList (p.rest.take length) :: Request.matches r n { q with groups := [] }
    | none => next p

/-- Whether there is a match at a place or behind it. The number bounds the steps. -/
def Request.hasMatch (r : Request) : Nat → LinePattern.Place → Bool
  | 0, _ => false
  | n + 1, p => (r.matchAt p).isSome || (p.step.head?).any (Request.hasMatch r n)

def Request.selects (r : Request) (line : String) : Bool :=
  r.hasMatch (line.length + 1) { rest := line.toList } != r.inverted

/-- The lines that are selected, with their numbers. -/
def Request.selection (r : Request) (text : List UInt8) : List (Nat × String) :=
  let lines := (byteLines text).map fun line => Text.Utf8.decodeString (chomp line)
  let found := (lines.zipIdx 1).filterMap fun (line, n) =>
    if r.selects line then some (n, line) else none
  match r.limit with
  | some n => found.take n
  | none => found

/-- What is written about an operand. -/
def Request.report (r : Request) (name : String) (found : List (Nat × String)) : String :=
  let label := if r.named then s!"{name}:" else ""
  if r.quiet then ""
  else
    match r.names with
    | some wanted => if !found.isEmpty == wanted then s!"{name}\n" else ""
    | none =>
      if r.counts then s!"{label}{found.length}\n"
      else
        String.join <| found.flatMap fun (n, line) =>
          let number := if r.numbered then s!"{n}:" else ""
          let parts := if !r.onlyMatches then [line]
            else if r.inverted then []
            else r.matches (2 * line.length + 2) { rest := line.toList }
          parts.map fun part => s!"{label}{number}{part}\n"

def rules : List OptionRule := [
  { letter := 'c', words := ["count"] },
  { letter := 'e', words := ["regexp"], takesArgument := true },
  { letter := 'E', words := ["extended-regexp"] }, { letter := 'F', words := ["fixed-strings"] },
  { letter := 'G', words := ["basic-regexp"] }, { letter := 'h', words := ["no-filename"] },
  { letter := 'H', words := ["with-filename"] }, { letter := 'i', words := ["ignore-case"] },
  { letter := 'l', words := ["files-with-matches"] },
  { letter := 'L', words := ["files-without-match"] },
  { letter := 'm', words := ["max-count"], takesArgument := true },
  { letter := 'n', words := ["line-number"] }, { letter := 'o', words := ["only-matching"] },
  { letter := 'q', words := ["quiet", "silent"] }, { letter := 's', words := ["no-messages"] },
  { letter := 'v', words := ["invert-match"] }, { letter := 'w', words := ["word-regexp"] },
  { letter := 'x', words := ["line-regexp"] }, { letter := 'y' }]

/-- The pattern of which one line or the other matches. -/
def patternOf (g : OptionRule.Given) (lines : List String) :
    Except LinePattern.Flaw LinePattern := do
  let parsed ← lines.mapM fun line =>
    if g.has 'F' then pure (LinePattern.exactly line.toList)
    else LinePattern.parse (g.has 'E') line
  match parsed.reverse with
  | [] => return .nothing
  | last :: before => return before.foldl (fun whole p => .either p whole) last

def usage (c : Call) (text : String) : Output :=
  { exitCode := 2
    stderr := bytes (text ++ s!"Usage: {c.name} [OPTION]... PATTERNS [FILE]...\n" ++
      s!"Try '{c.name} --help' for more information.\n") }

/-- The number of lines that are enough. -/
def limit? (g : OptionRule.Given) : Except String (Option Nat) :=
  match g.last? 'm' with
  | none => .ok none
  | some text =>
    match text.toInt? with
    | some n => .ok (if n < 0 then none else some n.toNat)
    | none => .error "invalid max count"

def run (c : Call) (g : OptionRule.Given) (lines operands : List String) : Output :=
  match patternOf g lines, limit? g with
  | .error flaw, _ => .complain c flaw.text 2
  | _, .error text => .complain c text 2
  | .ok pattern, .ok limit =>
    let names := g.options.filterMap fun (letter, _) =>
      if letter = 'l' then some true else if letter = 'L' then some false else none
    let r : Request := {
      pattern, limit, anyCase := g.has 'i' || g.has 'y', wholeWords := g.has 'w'
      wholeLines := g.has 'x', inverted := g.has 'v', counts := g.has 'c'
      onlyMatches := g.has 'o', names := names.getLast?, numbered := g.has 'n', quiet := g.has 'q'
      named := g.has 'H' || 1 < operands.length && !g.has 'h' }
    let parts := (c.readOperands operands).map fun (operand, contents) =>
      match contents with
      | .ok text =>
        let found := r.selection text
        let name := if operand = "-" then "(standard input)" else operand
        (bytes (r.report name found), ([] : List UInt8), !found.isEmpty)
      | .error fault =>
        ([], if g.has 's' then [] else bytes s!"{c.name}: {operand}: {fault.text}\n", false)
    let failed := (c.readOperands operands).any fun (_, contents) => contents.toOption.isNone
    let found := parts.any (·.2.2)
    { exitCode := if failed && !(r.quiet && found) then 2 else if found then 0 else 1
      stdout := parts.flatMap (·.1), stderr := parts.flatMap (·.2.1)
      unread := Call.unreadAfter operands }

end Grep

open Grep in
def grep : Program := fun c =>
  match OptionRule.readAll Grep.rules false {} c.arguments with
  | .error flaw => usage c s!"{c.name}: {flaw.text}\n"
  | .ok g =>
    let given := (g.options.filter (·.1 = 'e')).map (·.2)
    match given, g.operands with
    | [], [] => usage c ""
    | [], pattern :: operands => run c g (pattern.splitOn "\n") operands
    | given, operands => run c g (given.flatMap (·.splitOn "\n")) operands

end Testbed.Machine
