import Testbed.Machine.Tool.Decimal
import Testbed.Machine.Tool.Options

/-! # Lines in order

Lines are put in order by keys, which are parts of them compared in some way, and
lines in a row that are alike are counted or dropped.
-/

namespace Testbed.Machine

namespace Sorting

/-- How keys are compared. -/
structure Way where
  numeric : Bool := false
  reversed : Bool := false
  /-- Small letters count as capital ones. -/
  folded : Bool := false
  /-- Only letters, digits and blanks count. -/
  dictionary : Bool := false
  /-- Only printable characters count. -/
  printable : Bool := false
  deriving DecidableEq, Repr

/-- A position in a line: so many fields and then so many bytes behind its start. -/
structure Position where
  fields : Nat
  bytes : Nat
  skipsBlanks : Bool := false
  deriving DecidableEq, Repr

/-- A key goes from a position to another one, or to the end of the line. An end of no bytes is that
of its field. -/
structure Key where
  first : Position := ⟨0, 0, false⟩
  last : Option Position := none
  way : Way := {}
  deriving DecidableEq, Repr

def isBlank (b : UInt8) : Bool :=
  b = 0x20 || b = 0x09 || b = 0x0a

/-! ## Keys -/

/-- What is behind the first fields of a line: blanks in front belong to a field unless there is a
separator. -/
def skipFields (separator : Option UInt8) : Nat → List UInt8 → List UInt8
  | 0, line => line
  | n + 1, line =>
    match separator with
    | none => skipFields none n ((line.dropWhile isBlank).dropWhile (!isBlank ·))
    | some b => skipFields (some b) n ((line.dropWhile (· ≠ b)).drop 1)

/-- How much of a line is in front of a position that ends a key. -/
def lengthUpTo (separator : Option UInt8) (p : Position) (line : List UInt8) : Nat :=
  if p.bytes = 0 then
    let rest := skipFields separator p.fields line
    let rest := match separator with
      | none => (rest.dropWhile isBlank).dropWhile (!isBlank ·)
      | some b => rest.dropWhile (· ≠ b)
    line.length - rest.length
  else
    let rest := skipFields separator p.fields line
    let rest := if p.skipsBlanks then rest.dropWhile isBlank else rest
    line.length - (rest.drop p.bytes).length

def Key.text (separator : Option UInt8) (k : Key) (line : List UInt8) : List UInt8 :=
  let rest := skipFields separator k.first.fields line
  let rest := if k.first.skipsBlanks then rest.dropWhile isBlank else rest
  let rest := rest.drop k.first.bytes
  match k.last with
  | none => rest
  | some p => rest.take (lengthUpTo separator p line - (line.length - rest.length))

def isPrintable (b : UInt8) : Bool :=
  0x20 ≤ b && b < 0x7f

def upper (b : UInt8) : UInt8 :=
  if 0x61 ≤ b && b ≤ 0x7a then b - 0x20 else b

def isAlphanumeric (b : UInt8) : Bool :=
  b < 0x80 && (Char.ofNat b.toNat).isAlphanum

/-- What counts of a key. -/
def Way.view (w : Way) (text : List UInt8) : List UInt8 :=
  let text := if w.dictionary then text.filter fun b => isAlphanumeric b || isBlank b else text
  let text := if w.printable then text.filter isPrintable else text
  if w.folded then text.map upper else text

/-- The number at the start of a key, without a plus or an exponent, as a numerator and the digits
behind its point. -/
def number (text : List UInt8) : Int × Nat :=
  let digit := fun (b : UInt8) => 0x30 ≤ b && b ≤ 0x39
  let text := text.dropWhile isBlank
  let (negative, text) := if text.head? = some 0x2d then (true, text.drop 1) else (false, text)
  let whole := text.takeWhile digit
  let places := match text.drop whole.length with
    | 0x2e :: rest => rest.takeWhile digit
    | _ => []
  let n : Int := (whole ++ places).foldl (fun n b => 10 * n + (b.toNat - 0x30)) 0
  (if negative then -n else n, places.length)

def compareBytes : List UInt8 → List UInt8 → Ordering
  | [], [] => .eq
  | [], _ :: _ => .lt
  | _ :: _, [] => .gt
  | a :: s, b :: t => if a < b then .lt else if b < a then .gt else compareBytes s t

def Way.compare (w : Way) (a b : List UInt8) : Ordering :=
  let order := if w.numeric then
      let (m, i) := number a
      let (n, j) := number b
      Ord.compare (m * tenTo j) (n * tenTo i)
    else compareBytes (w.view a) (w.view b)
  if w.reversed then order.swap else order

/-- Compares lines by keys, and as they are when no key tells them apart and that counts. -/
def compareLines (separator : Option UInt8) (keys : List Key) (wholeLines reversed : Bool)
    (a b : List UInt8) : Ordering :=
  match keys with
  | [] =>
    if !wholeLines then .eq
    else if reversed then compareBytes b a else compareBytes a b
  | k :: rest =>
    (k.way.compare (k.text separator a) (k.text separator b)).then
      (compareLines separator rest wholeLines reversed a b)

/-! ## Options -/

inductive Flaw where
  | zeroField (spec : String)
  | zeroByte (spec : String)
  | stray (spec : String)
  | noCount (place rest : String)
  | emptySeparator
  | wideSeparator (text : String)
  deriving DecidableEq, Repr

def Flaw.text : Flaw → String
  | zeroField spec => s!"field number is zero: invalid field specification '{spec}'"
  | zeroByte spec => s!"character offset is zero: invalid field specification '{spec}'"
  | stray spec => s!"stray character in field spec: invalid field specification '{spec}'"
  | noCount place rest => s!"{place}: invalid count at start of '{rest}'"
  | emptySeparator => "empty tab"
  | wideSeparator text => s!"multi-character tab '{text}'"

/-- The ways that a letter can ask for; a blank is skipped by the position it stands at. -/
def Way.set (w : Way) : Char → Option Way
  | 'n' => some { w with numeric := true }
  | 'r' => some { w with reversed := true }
  | 'f' => some { w with folded := true }
  | 'd' => some { w with dictionary := true }
  | 'i' => some { w with printable := true }
  | 'b' => some w
  | _ => none

/-- Reads a count at the start of a text. -/
def count? (place : String) (cs : List Char) : Except Flaw (Nat × List Char) :=
  let digits := cs.takeWhile Char.isDigit
  match (String.ofList digits).toNat? with
  | some n => .ok (n, cs.drop digits.length)
  | none => .error (.noCount place (String.ofList cs))

/-- Reads the letters behind a position. -/
def letters (w : Way) (blanks : Bool) : List Char → Way × Bool × List Char
  | [] => (w, blanks, [])
  | c :: rest =>
    match w.set c with
    | some w => letters w (blanks || c = 'b') rest
    | none => (w, blanks, c :: rest)

/-- Reads a key. -/
def key? (spec : String) : Except Flaw (Key × Bool) := do
  let (field, rest) ← count? "invalid number at field start" spec.toList
  if field = 0 then throw (.zeroField spec)
  let (byte, rest) ← match rest with
    | '.' :: rest => count? "invalid number after '.'" rest
    | rest => pure (1, rest)
  if byte = 0 then throw (.zeroByte spec)
  let (way, blanks, rest) := letters {} false rest
  let first : Position := ⟨field - 1, byte - 1, blanks⟩
  match rest with
  | [] => return (⟨first, none, way⟩, way ≠ {} || blanks)
  | ',' :: rest =>
    let (field, rest) ← count? "invalid number after ','" rest
    if field = 0 then throw (.zeroField spec)
    let (byte, rest) ← match rest with
      | '.' :: rest => count? "invalid number after '.'" rest
      | rest => pure (0, rest)
    let (way, lastBlanks, rest) := letters way false rest
    if !rest.isEmpty then throw (.stray spec)
    return (⟨first, some ⟨field - 1, byte, lastBlanks⟩, way⟩, way ≠ {} || blanks || lastBlanks)
  | _ => throw (.stray spec)

def rules : List OptionRule := [
  { letter := 'b', words := ["ignore-leading-blanks"] },
  { letter := 'c', words := ["check"] }, { letter := 'C' },
  { letter := 'd', words := ["dictionary-order"] }, { letter := 'f', words := ["ignore-case"] },
  { letter := 'i', words := ["ignore-nonprinting"] },
  { letter := 'k', words := ["key"], takesArgument := true }, { letter := 'm', words := ["merge"] },
  { letter := 'n', words := ["numeric-sort"] },
  { letter := 'o', words := ["output"], takesArgument := true },
  { letter := 'r', words := ["reverse"] }, { letter := 's', words := ["stable"] },
  { letter := 't', words := ["field-separator"], takesArgument := true },
  { letter := 'u', words := ["unique"] }]

/-- The ways that options ask for, for all keys that do not ask themselves. -/
def commonWay (g : OptionRule.Given) : Way where
  numeric := g.has 'n'
  reversed := g.has 'r'
  folded := g.has 'f'
  dictionary := g.has 'd'
  printable := g.has 'i'

/-- The keys that options list; without any, a way that is asked for makes one of the line. -/
def keys (g : OptionRule.Given) : Except Flaw (List Key) := do
  let common := commonWay g
  let inherit := fun ((k, own) : Key × Bool) =>
    if own then k
    else
      let skip := fun (p : Position) => { p with skipsBlanks := g.has 'b' }
      { k with way := common, first := skip k.first, last := k.last.map skip }
  let listed ← (g.options.filter (·.1 = 'k')).mapM fun (_, spec) => key? spec
  if listed.isEmpty && ({ common with reversed := false } ≠ {} || g.has 'b') then
    return [inherit ({}, false)]
  return listed.map inherit

def separator (g : OptionRule.Given) : Except Flaw (Option UInt8) :=
  match g.last? 't' with
  | none => .ok none
  | some "\\0" => .ok (some 0)
  | some text =>
    match bytes text with
    | [] => .error .emptySeparator
    | [b] => .ok (some b)
    | _ => .error (.wideSeparator text)

/-- Of lines in a row that are alike only the first. -/
def firsts (alike : List UInt8 → List UInt8 → Bool) :
    Option (List UInt8) → List (List UInt8) → List (List UInt8)
  | _, [] => []
  | before, line :: rest =>
    if before.any (alike · line) then firsts alike before rest
    else line :: firsts alike (some line) rest

/-- The first line that must not stand behind the one before it, with its number. -/
def disorder? (inOrder : List UInt8 → List UInt8 → Bool) :
    Nat → List (List UInt8) → Option (Nat × List UInt8)
  | n, a :: b :: rest =>
    if inOrder a b then disorder? inOrder (n + 1) (b :: rest) else some (n + 1, b)
  | _, _ => none

end Sorting

open Sorting in
def sort : Program :=
  withOptions rules (fun c g =>
    let setup := do return ((← keys g), (← separator g))
    match setup with
    | .error flaw => .complain c flaw.text 2
    | .ok (keys, separator) =>
      let all := c.readOperands g.operands
      match all.find? fun (_, r) => r.toOption.isNone with
      | some (operand, .error .isDirectory) =>
        .complain c s!"read failed: {operand}: Is a directory" 2
      | some (operand, .error fault) => .complain c s!"cannot read: {operand}: {fault.text}" 2
      | _ =>
        let lines := all.flatMap fun (_, r) => (byteLines (r.toOption.getD [])).map chomp
        let order := compareLines separator keys (!g.has 's' && !g.has 'u' || keys.isEmpty)
          (g.has 'r')
        let unread := Call.unreadAfter g.operands
        if g.has 'c' || g.has 'C' then
          let inOrder := fun a b => if g.has 'u' then (order a b).isLT else (order a b).isLE
          match disorder? inOrder 1 lines with
          | none => { unread }
          | some (n, line) =>
            let name := (orInput g.operands).headD "-"
            { exitCode := 1, unread
              stderr := if g.has 'C' then []
                else bytes s!"{c.name}: {name}:{n}: disorder: " ++ fed line }
        else
          let sorted := lines.mergeSort fun a b => (order a b).isLE
          let sorted := if g.has 'u' then firsts (fun a b => (order a b).isEq) none sorted
            else sorted
          let text := sorted.flatMap fed
          match g.last? 'o' with
          | none => { stdout := text, unread }
          | some path =>
            match c.files.write path (Text.Utf8.decodeString text) with
            | .ok files => { unread, files := some files }
            | .error fault => .complain c s!"open failed: {path}: {fault.text}" 2) 2

/-! ## Lines that are alike -/

namespace Alike

/-- Lines in a row that are alike, all of them. -/
def groups (alike : List UInt8 → List UInt8 → Bool) (lines : List (List UInt8)) :
    List (List (List UInt8)) :=
  lines.foldr (fun line rest =>
    match rest with
    | (other :: group) :: more =>
      if alike line other then (line :: other :: group) :: more else [line] :: rest
    | _ => [line] :: rest) []

/-- What counts of a line. -/
def view (fields chars : Nat) (width : Option Nat) (folded : Bool) (line : List UInt8) :
    List UInt8 :=
  let rest := (Sorting.skipFields none fields line).drop chars
  let rest := match width with
    | some n => rest.take n
    | none => rest
  if folded then rest.map Sorting.upper else rest

def rules : List OptionRule := [
  { letter := 'c', words := ["count"] }, { letter := 'd', words := ["repeated"] }, { letter := 'D' },
  { letter := 'f', words := ["skip-fields"], takesArgument := true },
  { letter := 'i', words := ["ignore-case"] },
  { letter := 's', words := ["skip-chars"], takesArgument := true },
  { letter := 'u', words := ["unique"] },
  { letter := 'w', words := ["check-chars"], takesArgument := true }]

/-- The number that an option is given, or what is said about it. -/
def number? (g : OptionRule.Given) (letter : Char) (what : String) : Except String (Option Nat) :=
  match g.last? letter with
  | none => .ok none
  | some text =>
    match (if text.toList.all Char.isDigit then text.toNat? else none) with
    | some n => .ok (some n)
    | none => .error s!"{text}: invalid number of {what}"

def written (g : OptionRule.Given) (group : List (List UInt8)) : List UInt8 :=
  let several := 1 < group.length
  if several && g.has 'u' || !several && (g.has 'd' || g.has 'D') then []
  else if g.has 'D' then group.flatMap fed
  else
    let count := if g.has 'c' then bytes (rightAligned 7 group.length ++ " ") else []
    count ++ fed (group.headD [])

end Alike

open Alike in
def uniq : Program :=
  withOptions Alike.rules (fun c g =>
    let setup := do
      return ((← number? g 'f' "fields to skip"), (← number? g 's' "bytes to skip"),
        (← number? g 'w' "bytes to compare"))
    match setup with
    | .error text => .complain c text 1
    | .ok (fields, chars, width) =>
      match g.operands.drop 2 with
      | extra :: _ => .extraOperand c extra
      | [] =>
        let source := (orInput g.operands).headD "-"
        match c.readOperand source with
        | .error .isDirectory => .complain c s!"error reading '{source}': Is a directory" 1
        | .error fault => .complain c s!"{source}: {fault.text}" 1
        | .ok text =>
          let view := view (fields.getD 0) (chars.getD 0) width (g.has 'i')
          let found := groups (fun a b => view a = view b) ((byteLines text).map chomp)
          let stdout := found.flatMap (written g)
          let unread := Call.unreadAfter [source]
          match g.operands[1]? with
          | none | some "-" => { stdout, unread }
          | some path =>
            match c.files.write path (Text.Utf8.decodeString stdout) with
            | .ok files => { unread, files := some files }
            | .error fault => .complain c s!"{path}: {fault.text}" 1) 1

end Testbed.Machine
