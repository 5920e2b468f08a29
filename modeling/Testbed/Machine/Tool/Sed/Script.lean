import Testbed.Machine.Tool.LinePattern

/-! # Scripts of the stream editor

A script is a list of commands, each guarded by addresses. Blocks become jumps over
the commands in them.
-/

namespace Testbed.Machine.Sed

inductive Address where
  | line (n : Nat)
  | lastLine
  /-- Lines in which a pattern matches; without one, the last pattern that has been used. -/
  | matching (pattern : Option LinePattern) (anyCase : Bool)
  /-- From a line on one in so many. -/
  | every (first step : Nat)
  deriving Repr

inductive Guard where
  | always
  | one (a : Address)
  | between (first last : Address)
  | following (first : Address) (count : Nat)
  deriving Repr

/-- A piece of what is put in the place of a match. -/
inductive Part where
  | text (s : String)
  /-- What a group has matched; the group without a number is the whole match. -/
  | group (number : Nat)
  /-- From here on letters are changed as the letter tells. -/
  | letterCase (c : Char)
  deriving Repr

structure Substitution where
  pattern : Option LinePattern
  parts : List Part
  anyCase : Bool := false
  all : Bool := false
  /-- The match that is replaced, counted from one. -/
  number : Nat := 1
  prints : Bool := false
  deriving Repr

inductive Action where
  | nothing
  | label (name : String)
  | jump (label : String)
  | jumpIfChanged (label : String)
  | skipTo (index : Nat)
  | print
  | printFirst
  | delete
  | deleteFirst
  | quit (code : Nat) (prints : Bool)
  | number
  | next
  | join
  | hold (appends : Bool)
  | fetch (appends : Bool)
  | exchange
  | substitute (s : Substitution)
  | exchangeLetters (pairs : List (Char × Char))
  | insert (text : String)
  | append (text : String)
  | change (text : String)
  deriving Repr

structure Command where
  guard : Guard := .always
  negated : Bool := false
  action : Action
  deriving Repr

/-- What is wrong about a script, and what had not been read by then. -/
structure Flaw where
  text : String
  /-- How many characters are left; nothing if the place does not count. -/
  left : Option Nat
  deriving DecidableEq, Repr

def fail {α : Type} (text : String) (cs : List Char) : Except Flaw α :=
  .error ⟨text, some cs.length⟩

/-! ## Pieces of commands -/

/-- The text up to a delimiter, which a backslash takes its meaning from. Inside brackets it has
none. -/
def upTo (delimiter : Char) (isPattern : Bool) : Bool → List Char → List Char →
    Option (List Char × List Char)
  | _, _, [] => none
  | inside, before, '\\' :: c :: rest =>
    if inside then upTo delimiter isPattern true ('\\' :: before) (c :: rest)
    else if c = delimiter then
      upTo delimiter isPattern false (if isPattern || c ≠ '&' then c :: before else c :: '\\' :: before)
        rest
    else if isPattern && c = 'n' then upTo delimiter isPattern false ('\n' :: before) rest
    else if isPattern && c = 't' then upTo delimiter isPattern false ('\t' :: before) rest
    else upTo delimiter isPattern false (c :: '\\' :: before) rest
  | inside, before, c :: rest =>
    if c = delimiter && !inside then some (before.reverse, rest)
    else
      let opens := isPattern && c = '[' && !inside
      let first := before.head? = some '[' || before.head? = some '^'
      let closes := inside && c = ']' && !first
      upTo delimiter isPattern ((inside || opens) && !closes) (c :: before) rest
termination_by _ _ cs => cs.length

/-- The pieces of a replacement. -/
def parts : List Char → List Part
  | [] => []
  | '\\' :: c :: rest =>
    let part : Part :=
      if c.isDigit then .group (c.toNat - '0'.toNat)
      else if "ULulE".toList.contains c then .letterCase c
      else if c = 'n' then .text "\n"
      else if c = 't' then .text "\t"
      else .text (String.ofList [c])
    part :: parts rest
  | '&' :: rest => .group 0 :: parts rest
  | c :: rest => .text (String.ofList [c]) :: parts rest

def pattern? (extended : Bool) (text : List Char) (rest : List Char) :
    Except Flaw (Option LinePattern) :=
  if text.isEmpty then .ok none
  else
    match LinePattern.parse extended (String.ofList text) with
    | .ok p => .ok (some p)
    | .error flaw => fail flaw.text rest

def skipBlanks (cs : List Char) : List Char :=
  cs.dropWhile fun c => c = ' ' || c = '\t'

/-- Reads a number, and zero if there is none. -/
def number (cs : List Char) : Nat × List Char :=
  let digits := cs.takeWhile Char.isDigit
  (((String.ofList digits).toNat?).getD 0, cs.drop digits.length)

/-- The flags behind a substitution. -/
def flags (s : Substitution) : List Char → Except Flaw (Substitution × List Char)
  | [] => .ok (s, [])
  | c :: rest =>
    match c with
    | 'g' => flags { s with all := true } rest
    | 'p' => flags { s with prints := true } rest
    | 'i' | 'I' => flags { s with anyCase := true } rest
    | 'm' | 'M' => flags s rest
    | ';' | '\n' | '\x7d' | '#' => .ok (s, c :: rest)
    | c =>
      if c.isDigit then
        let digits := rest.takeWhile Char.isDigit
        let n := ((String.ofList (c :: digits)).toNat?).getD 0
        if n = 0 then fail "number option to \x60s' command may not be zero" (rest.drop digits.length)
        else flags { s with number := n } (rest.drop digits.length)
      else if c = ' ' || c = '\t' then flags s rest
      else fail "unknown option to \x60s'" rest
termination_by cs => cs.length
decreasing_by all_goals (simp; try omega)

def substitution (extended : Bool) (cs : List Char) : Except Flaw (Substitution × List Char) :=
  let unterminated : Except Flaw (Substitution × List Char) := fail "unterminated \x60s' command" []
  match cs with
  | [] => unterminated
  | delimiter :: rest =>
    match upTo delimiter true false [] rest with
    | none => unterminated
    | some (pattern, rest) =>
      match upTo delimiter false false [] rest with
      | none => unterminated
      | some (replacement, rest) => do
        let parts := parts replacement
        let (s, rest) ← flags { pattern := none, parts } rest
        let pattern ← pattern? extended pattern rest
        let most := parts.foldl (fun n part =>
          match part with
          | .group k => max n k
          | _ => n) 0
        if (pattern.any fun p => p.groupCount < most) then
          fail s!"invalid reference \\{most} on \x60s' command's RHS" rest
        else return ({ s with pattern }, rest)

/-- A text in which a backslash takes the meaning from what follows it. -/
def plain : List Char → List Char
  | '\\' :: 'n' :: rest => '\n' :: plain rest
  | '\\' :: 't' :: rest => '\t' :: plain rest
  | '\\' :: c :: rest => c :: plain rest
  | c :: rest => c :: plain rest
  | [] => []

def letterPairs (cs : List Char) : Except Flaw (List (Char × Char) × List Char) :=
  let unterminated : Except Flaw (List (Char × Char) × List Char) := fail "unterminated \x60y' command" []
  match cs with
  | [] => unterminated
  | delimiter :: rest =>
    match upTo delimiter false false [] rest with
    | none => unterminated
    | some (source, rest) =>
      match upTo delimiter false false [] rest with
      | none => unterminated
      | some (target, rest) =>
        let (source, target) := (plain source, plain target)
        if source.length ≠ target.length then
          fail "strings for \x60y' command are different lengths" rest
        else .ok (source.zip target, rest)

/-- The text of a command that has some: it goes to the end of a line that does not end in a
backslash. -/
def textBody : List Char → List Char → List Char × List Char
  | before, [] => (before.reverse, [])
  | before, '\n' :: rest => (before.reverse, rest)
  | before, '\\' :: c :: rest => textBody (c :: before) rest
  | before, c :: rest => textBody (c :: before) rest

def text (cs : List Char) : Except Flaw (String × List Char) :=
  let cs := skipBlanks cs
  let body := match cs with
    | '\\' :: rest =>
      match skipBlanks rest with
      | '\n' :: rest => rest
      | _ => rest
    | cs => cs
  if cs.isEmpty then fail "expected \\ after \x60a', \x60c' or \x60i'" []
  else
    let (found, rest) := textBody [] body
    .ok (String.ofList found ++ "\n", rest)

/-- The name of a label goes to the end of the line, or to a semicolon. -/
def labelName (cs : List Char) : String × List Char :=
  let cs := skipBlanks cs
  let name := cs.takeWhile fun c => c ≠ '\n' && c ≠ ';'
  (String.ofList (name.reverse.dropWhile (· = ' ')).reverse, cs.drop name.length)

/-! ## Commands -/

/-- Reads an address, if there is one. -/
def address? (extended : Bool) (cs : List Char) : Except Flaw ((Option Address) × List Char) :=
  let pattern := fun (delimiter : Char) (rest : List Char) =>
    match upTo delimiter true false [] rest with
    | none => fail "unterminated address regex" []
    | some (text, rest) => do
      let (anyCase, rest) := match rest with
        | 'I' :: rest => (true, rest)
        | rest => (false, rest)
      let p ← pattern? extended text rest
      return (some (.matching p anyCase), rest)
  match cs with
  | '$' :: rest => .ok (some .lastLine, rest)
  | '/' :: rest => pattern '/' rest
  | '\\' :: c :: rest => pattern c rest
  | c :: _ =>
    if c.isDigit then
      let (n, rest) := number cs
      match rest with
      | '~' :: rest =>
        let (step, rest) := number rest
        .ok (some (.every n step), rest)
      | rest => .ok (some (.line n), rest)
    else .ok (none, cs)
  | [] => .ok (none, [])

/-- Reads the addresses in front of a command. -/
def guard (extended : Bool) (cs : List Char) : Except Flaw (Guard × List Char) := do
  let (first, rest) ← address? extended cs
  match first with
  | none => return (.always, rest)
  | some first =>
    match skipBlanks rest with
    | ',' :: rest =>
      match skipBlanks rest with
      | '+' :: rest =>
        let (n, rest) := number rest
        return (.following first n, rest)
      | rest =>
        let (last, rest) ← address? extended rest
        match last with
        | some last => return (.between first last, rest)
        | none => fail "unexpected \x60,'" (rest.drop 1)
    | _ => return (.one first, rest)

/-- The commands that are a letter alone. -/
def simpleActions : List (Char × Action) := [
  ('p', .print), ('P', .printFirst), ('d', .delete), ('D', .deleteFirst), ('=', .number),
  ('n', .next), ('N', .join), ('h', .hold false), ('H', .hold true), ('g', .fetch false),
  ('G', .fetch true), ('x', .exchange)]

/-- What must follow a command: the end of a line, a semicolon or a bracket that closes a block. -/
def ending (action : Action) (cs : List Char) : Except Flaw (Action × List Char) :=
  match skipBlanks cs with
  | [] => .ok (action, [])
  | ';' :: rest | '\n' :: rest => .ok (action, rest)
  | '\x7d' :: rest => .ok (action, '\x7d' :: rest)
  | '#' :: rest => .ok (action, '#' :: rest)
  | _ :: rest => fail "extra characters after command" rest

/-- Reads a command by its letter, other than those of blocks. -/
def action (extended : Bool) (c : Char) (cs : List Char) : Except Flaw (Action × List Char) :=
  match simpleActions.lookup c with
  | some a => ending a cs
  | none =>
    match c with
    | 'q' | 'Q' =>
      let (code, rest) := number (skipBlanks cs)
      ending (.quit code (c = 'q')) rest
    | 's' => do
      let (s, rest) ← substitution extended cs
      ending (.substitute s) rest
    | 'y' => do
      let (pairs, rest) ← letterPairs cs
      ending (.exchangeLetters pairs) rest
    | 'a' => (text cs).map fun (t, rest) => (.append t, rest)
    | 'i' => (text cs).map fun (t, rest) => (.insert t, rest)
    | 'c' => (text cs).map fun (t, rest) => (.change t, rest)
    | ':' =>
      let (name, rest) := labelName cs
      if name.isEmpty then fail "\":\" lacks a label" rest else .ok (.label name, rest)
    | 'b' =>
      let (name, rest) := labelName cs
      .ok (.jump name, rest)
    | 't' =>
      let (name, rest) := labelName cs
      .ok (.jumpIfChanged name, rest)
    | c => fail s!"unknown command: \x60{c}'" cs

/-- Whether a guard names line zero where no pattern can match. -/
def Guard.namesLineZero : Guard → Bool
  | one (.line 0) | following (.line 0) _ => true
  | between (.line 0) (.matching _ _) => false
  | between (.line 0) _ => true
  | _ => false

/-- Reads commands. The indices are those of the jumps over blocks that are still open. The first
number bounds the steps. -/
def commands (extended : Bool) : Nat → List Nat → Array Command → List Char →
    Except Flaw (Array Command)
  | 0, _, found, _ => .ok found
  | n + 1, opened, found, cs =>
    match cs.dropWhile fun c => c = ' ' || c = '\t' || c = '\n' || c = ';' with
    | [] => if opened.isEmpty then .ok found else .error ⟨"unmatched \x60\x7b'", none⟩
    | '#' :: rest => commands extended n opened found (rest.dropWhile (· ≠ '\n'))
    | '\x7d' :: rest =>
      match opened with
      | [] => fail "unexpected \x60\x7d'" rest
      | start :: opened =>
        let found := found.modify start fun c => { c with action := .skipTo found.size }
        match ending .nothing rest with
        | .error flaw => .error flaw
        | .ok (_, rest) => commands extended n opened found rest
    | cs =>
      match guard extended cs with
      | .error flaw => .error flaw
      | .ok (g, rest) =>
        let rest := skipBlanks rest
        let (negated, rest) := match rest with
          | '!' :: rest => (true, skipBlanks rest)
          | rest => (false, rest)
        match rest with
        | [] => fail "missing command" []
        | c :: rest =>
          if c = '!' then fail "multiple \x60!'s" rest
          else if g.namesLineZero then fail "invalid usage of line address 0" rest
          else if c = '\x7b' then
            let command : Command := { guard := g, negated := !negated, action := .skipTo 0 }
            commands extended n (found.size :: opened) (found.push command) rest
          else
            match action extended c rest with
            | .error flaw => .error flaw
            | .ok (a, rest) =>
              let command : Command := { guard := g, negated, action := a }
              commands extended n opened (found.push command) rest

/-- Reads a script. -/
def script (extended : Bool) (text : String) : Except Flaw (Array Command) :=
  commands extended (text.length + 1) [] #[] text.toList

end Testbed.Machine.Sed
