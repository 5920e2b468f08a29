import Testbed.Machine.Tool.Options
import Testbed.Machine.Tool.Sed.Script

/-! # The stream editor

Each line goes through the commands of a script and is written at its end. A second
space keeps text from line to line.
-/

namespace Testbed.Machine

namespace Sed

structure State where
  /-- The number of the current line. -/
  number : Nat := 0
  space : List Char := []
  /-- Whether the current line has ended in a line feed. -/
  fed : Bool := true
  hold : List Char := []
  rest : List (List UInt8)
  output : List UInt8 := []
  /-- Whether the last line written lacks its line feed. -/
  unfinished : Bool := false
  /-- What is written when the current line is done. -/
  queue : String := ""
  changed : Bool := false
  /-- The commands whose ranges are open, with the line at which they end if that is known. -/
  ranges : List (Nat × Option Nat) := []
  lastPattern : Option LinePattern := none
  deriving Repr

inductive Outcome where
  /-- The line is done. -/
  | done (prints : Bool)
  /-- The commands start again with what is left. -/
  | again
  | quit (code : Nat) (prints : Bool)
  | flaw (text : String)
  deriving DecidableEq, Repr

def State.write (s : State) (text : String) : State :=
  let gap : List UInt8 := if s.unfinished then [0x0a] else []
  { s with output := s.output ++ gap ++ bytes text, unfinished := false }

def State.writeLine (s : State) (line : List Char) : State :=
  let t := s.write (String.ofList line)
  if s.fed then { t with output := t.output ++ [0x0a] } else { t with unfinished := true }

/-- Takes the next line, if there is one. -/
def State.take (s : State) (join : Bool) : Option State :=
  match s.rest with
  | [] => none
  | line :: rest =>
    let text := (Text.Utf8.decodeString (chomp line)).toList
    some { s with
      number := s.number + 1, rest, fed := chomp line ≠ line
      space := if join then s.space ++ '\n' :: text else text }

def State.flush (s : State) : State :=
  if s.queue.isEmpty then s else { s.write s.queue with queue := "" }

/-- Writes the line at its end, and what has been queued. -/
def State.finish (s : State) (prints : Bool) : State :=
  (if prints then s.writeLine s.space else s).flush

/-! ## Guards -/

/-- Whether a line has an address, with the pattern that has been used last. -/
def Address.holds (a : Address) (s : State) : Bool × State :=
  match a with
  | .line n => (s.number = n, s)
  | .lastLine => (s.rest.isEmpty, s)
  | .every first step =>
    (if step = 0 then s.number = first else first ≤ s.number && (s.number - first) % step = 0, s)
  | .matching pattern anyCase =>
    let p := pattern.orElse fun _ => s.lastPattern
    ((p.any fun p => (LinePattern.find? anyCase p { rest := s.space }).isSome),
      { s with lastPattern := p })

def State.close (s : State) (index : Nat) : State :=
  { s with ranges := s.ranges.filter (·.1 ≠ index) }

/-- Opens the range of a command, unless it ends where it begins. -/
def State.openRange (s : State) (index : Nat) (last : Option Nat) : State :=
  if last.any (· ≤ s.number) then s else { s.close index with ranges := (index, last) :: s.ranges }

/-- Whether the command with the given index applies to the current line. -/
def Guard.holds (g : Guard) (index : Nat) (s : State) : Bool × State :=
  match g with
  | .always => (true, s)
  | .one a => a.holds s
  | .following first count =>
    match s.ranges.lookup index with
    | some last => (true, if last.any (· ≤ s.number) then s.close index else s)
    | none =>
      let (found, s) := first.holds s
      (found, if found then s.openRange index (some (s.number + count)) else s)
  | .between first last =>
    match s.ranges.lookup index with
    | some (some n) =>
      if n < s.number then
        /- The range has ended in a line that this command has not seen. -/
        let (found, s) := first.holds (s.close index)
        (found, if found then s.openRange index (some n) else s)
      else (true, if n = s.number then s.close index else s)
    | some none =>
      let (ends, s) := last.holds s
      (true, if ends then s.close index else s)
    | none =>
      let (found, s) := match first with
        | .line 0 => (s.number = 1, s)
        | first => first.holds s
      if !found then (false, s)
      else
        match first, last with
        | .line 0, last =>
          let (ends, s) := last.holds s
          (true, if ends then s else s.openRange index none)
        | _, .line n => (true, s.openRange index (some n))
        | _, .lastLine => (true, if s.rest.isEmpty then s else s.openRange index none)
        | _, _ => (true, s.openRange index none)

/-! ## Substitution -/

/-- How letters are changed: all of them, and the next one alone. -/
structure Casing where
  all : Option Char := none
  next : Option Char := none
  deriving DecidableEq, Repr

def changeCase (how : Option Char) (c : Char) : Char :=
  match how with
  | some 'U' | some 'u' => c.toUpper
  | some 'L' | some 'l' => c.toLower
  | _ => c

def Casing.apply : Casing → List Char → List Char × Casing
  | k, [] => ([], k)
  | k, c :: rest =>
    let d := changeCase (k.next.orElse fun _ => k.all) c
    (d :: rest.map (changeCase k.all), { k with next := none })

/-- What is put in the place of a match. -/
def replacement (whole : List Char) (groups : List (Nat × List Char)) :
    Casing → List Part → List Char
  | _, [] => []
  | k, .letterCase c :: rest =>
    let k := if c = 'E' then {} else if c.isUpper then { all := some c } else { k with next := some c }
    replacement whole groups k rest
  | k, .text s :: rest =>
    let (text, k) := k.apply s.toList
    text ++ replacement whole groups k rest
  | k, .group n :: rest =>
    let (text, k) := k.apply (if n = 0 then whole else (groups.lookup n).getD [])
    text ++ replacement whole groups k rest

/-- The text with matches replaced, and whether there were any to replace. Matches are counted; the
place is where the last one has ended. The first number bounds the steps. -/
def Substitution.replace (s : Substitution) (p : LinePattern) : Nat → Nat → Option Nat →
    LinePattern.Place → List Char × Bool
  | 0, _, _, place => (place.rest, false)
  | n + 1, count, ended, place =>
    match LinePattern.find? s.anyCase p { place with groups := [] } with
    | none => (place.rest, false)
    | some (start, stop) =>
      let before := place.rest.take (place.rest.length - start.rest.length)
      let whole := start.rest.take (start.rest.length - stop.rest.length)
      let goOn := fun (text : List Char) (count : Nat) (changed : Bool) =>
        if whole.isEmpty then
          match stop.rest with
          | [] => (before ++ text, changed)
          | c :: rest =>
            let (more, also) := Substitution.replace s p n count none
              { before := c :: stop.before, rest }
            (before ++ text ++ c :: more, changed || also)
        else
          let (more, also) := Substitution.replace s p n count (some stop.rest.length) stop
          (before ++ text ++ more, changed || also)
      if whole.isEmpty && ended = some start.rest.length then goOn [] count false
      else if count + 1 < s.number then goOn whole (count + 1) false
      else
        let text := replacement whole stop.groups {} s.parts
        if s.all then goOn text (count + 1) true
        else (before ++ text ++ stop.rest, true)

/-! ## Commands -/

def labelIndex (script : Array Command) (name : String) : Option Nat :=
  if name.isEmpty then some script.size
  else
    script.findIdx? fun c =>
      match c.action with
      | .label l => l = name
      | _ => false

/-- Does what a command asks for: the state, and where it goes on or how the line ends. -/
def perform (script : Array Command) (quiet : Bool) (index : Nat) (c : Command) (s : State) :
    State × Except Outcome Nat :=
  let following : Except Outcome Nat := .ok (index + 1)
  let jump := fun (name : String) => .ok ((labelIndex script name).getD script.size)
  let firstLine := s.space.takeWhile (· ≠ '\n')
  match c.action with
  | .nothing | .label _ => (s, following)
  | .jump name => (s, jump name)
  | .jumpIfChanged name =>
    if s.changed then ({ s with changed := false }, jump name) else (s, following)
  | .skipTo target => (s, .ok target)
  | .print => (s.writeLine s.space, following)
  | .printFirst => ({ ({ s with fed := true } : State).writeLine firstLine with fed := s.fed }, following)
  | .delete => (s, .error (.done false))
  | .deleteFirst =>
    if s.space.contains '\n' then
      ({ s with space := s.space.drop (firstLine.length + 1) }, .error .again)
    else (s, .error (.done false))
  | .quit code prints => (s, .error (.quit code prints))
  | .number => (s.write s!"{s.number}\n", following)
  | .next =>
    if s.rest.isEmpty then (s, .error (.quit 0 true))
    else
      let t := s.finish (!quiet)
      ((t.take false).getD t, following)
  | .join =>
    if s.rest.isEmpty then (s, .error (.quit 0 true))
    else
      let t := s.flush
      ((t.take true).getD t, following)
  | .hold appends =>
    ({ s with hold := if appends then s.hold ++ '\n' :: s.space else s.space }, following)
  | .fetch appends =>
    ({ s with space := if appends then s.space ++ '\n' :: s.hold else s.hold }, following)
  | .exchange => ({ s with space := s.hold, hold := s.space }, following)
  | .exchangeLetters pairs =>
    ({ s with space := s.space.map fun d => (pairs.lookup d).getD d }, following)
  | .insert text => (s.write text, following)
  | .append text => ({ s with queue := s.queue ++ text }, following)
  | .change text =>
    let inside := (s.ranges.lookup index).isSome && !c.negated
    (if inside then s else s.write text, .error (.done false))
  | .substitute sub =>
    match sub.pattern.orElse fun _ => s.lastPattern with
    | none => (s, .error (.flaw "no previous regular expression"))
    | some p =>
      let (space, changed) := sub.replace p (2 * s.space.length + 2) 0 none { rest := s.space }
      let s := { s with lastPattern := some p }
      if changed then
        let s := { s with space, changed := true }
        (if sub.prints then s.writeLine space else s, following)
      else (s, following)

/-- Runs commands from one of them on. The first number bounds the steps. -/
def commandsFrom (script : Array Command) (quiet : Bool) : Nat → Nat → State → State × Outcome
  | 0, _, s => (s, .done true)
  | n + 1, index, s =>
    match script[index]? with
    | none => (s, .done true)
    | some c =>
      let (applies, s) := c.guard.holds index s
      if applies != c.negated then
        match perform script quiet index c s with
        | (s, .ok index) => commandsFrom script quiet n index s
        | (s, .error outcome) => (s, outcome)
      else commandsFrom script quiet n (index + 1) s

/-- The bound on the steps for one line. -/
def patience : Nat :=
  10000

/-- Runs the script on one line after the other. The number bounds the steps. -/
def lines (script : Array Command) (quiet : Bool) : Nat → Bool → State →
    State × Except String Nat
  | 0, _, s => (s, .ok 0)
  | n + 1, fresh, s =>
    match (if fresh then s.take false else some s) with
    | none => (s, .ok 0)
    | some s =>
      match commandsFrom script quiet patience 0 { s with changed := false } with
      | (s, .done prints) => lines script quiet n true (s.finish (prints && !quiet))
      | (s, .again) => lines script quiet n false s.flush
      | (s, .quit code prints) => (s.finish (prints && !quiet), .ok code)
      | (s, .flaw text) => (s, .error text)

/-! ## The program -/

def rules : List OptionRule := [
  { letter := 'e', words := ["expression"], takesArgument := true },
  { letter := 'E', words := ["regexp-extended"] }, { letter := 'i', words := ["in-place"] },
  { letter := 'n', words := ["quiet", "silent"] }, { letter := 'r' },
  { letter := 's', words := ["separate"] }, { letter := 'u', words := ["unbuffered"] }]

/-- The labels that are jumped to but are not there. -/
def lostLabel? (script : Array Command) : Option String :=
  script.toList.findSome? fun c =>
    match c.action with
    | .jump name | .jumpIfChanged name =>
      if (labelIndex script name).isNone then some name else none
    | _ => none

/-- Whether a script asks by its first line that only what is asked for be written. -/
def isQuiet (text : String) : Bool :=
  match text.toList with
  | '#' :: 'n' :: rest => rest.isEmpty || rest.head? = some '\n'
  | _ => false

/-- A complaint about a script made of expressions, with its place in one of them. -/
def complaint (expressions : List String) (flaw : Flaw) : String :=
  let total := ("\n".intercalate expressions).length
  match flaw.left with
  | none => s!"-e expression #1, char 0: {flaw.text}"
  | some left =>
    let (number, place) := expressions.foldl (fun (n, place) e =>
      if e.length < place then (n + 1, place - (e.length + 1)) else (n, place)) (1, total - left)
    s!"-e expression #{number}, char {place}: {flaw.text}"

/-- Edits some bytes. -/
def edit (script : Array Command) (quiet : Bool) (text : List UInt8) : State × Except String Nat :=
  let all := byteLines text
  lines script quiet (all.length * (all.length + 2) + text.length + 2) true { rest := all }

/-- Edits each operand by itself, and puts what comes of it in its place. -/
def editInPlace (c : Call) (script : Array Command) (quiet : Bool) (operands : List String) :
    Output :=
  let step := fun ((files, complaints, code) : FileTree × List UInt8 × Int) (operand : String) =>
    match c.readFile operand with
    | .error .isDirectory =>
      (files, complaints ++ bytes s!"{c.name}: couldn't edit {operand}: not a regular file\n", 4)
    | .error fault =>
      (files, complaints ++ bytes s!"{c.name}: can't read {operand}: {fault.text}\n", 2)
    | .ok text =>
      let (s, _) := edit script quiet text
      match files.write operand (Text.Utf8.decodeString s.output) with
      | .ok files => (files, complaints, code)
      | .error fault => (files, complaints ++ bytes s!"{c.name}: {operand}: {fault.text}\n", 4)
  let (files, stderr, exitCode) := operands.foldl step (c.files, [], 0)
  { exitCode, stderr, files := some files }

end Sed

open Sed in
def sed : Program :=
  withOptions rules (fun c g =>
    let given := (g.options.filter (·.1 = 'e')).map (·.2)
    let (expressions, operands) := match given, g.operands with
      | [], script :: operands => ([script], operands)
      | given, operands => (given, operands)
    let text := "\n".intercalate expressions
    match script (g.has 'E' || g.has 'r') text with
    | .error flaw => .complain c (complaint expressions flaw) 1
    | .ok script =>
      let quiet := g.has 'n' || isQuiet text
      match lostLabel? script with
      | some name => .complain c s!"can't find label for jump to \x60{name}'" 4
      | none =>
        if g.has 'i' then editInPlace c script quiet operands
        else
          let (text, complaints) := c.readJoined operands fun operand fault =>
            if fault = .isDirectory then s!"couldn't edit {operand}: not a regular file"
            else s!"can't read {operand}: {fault.text}"
          let (s, ending) := edit script quiet text
          match ending with
          | .error flaw =>
            { exitCode := 1, stdout := s.output
              stderr := bytes s!"{c.name}: -e expression #1, char 0: {flaw}\n" }
          | .ok code =>
            { exitCode := if complaints.isEmpty || code ≠ 0 then code else 2
              stdout := s.output, stderr := complaints
              unread := Call.unreadAfter operands }) 1

end Testbed.Machine
