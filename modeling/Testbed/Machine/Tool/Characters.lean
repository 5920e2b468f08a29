import Testbed.Machine.CharacterClass
import Testbed.Machine.Escape
import Testbed.Machine.Tool.Options

/-! # Exchanging bytes

Bytes of one set are exchanged for those of another one, deleted, or written once
where they stand in a row. Sets are written with ranges, classes and repetitions.
-/

namespace Testbed.Machine

namespace Exchange

/-- A piece of a set. -/
inductive Item where
  | range (low high : UInt8)
  | named (name : String)
  /-- A byte so often; zero stands for as often as the set needs it. -/
  | repeated (b : UInt8) (count : Nat)
  deriving DecidableEq, Repr

inductive Flaw where
  | unknownClass (name : String)
  | equivalence (text : String)
  | count (text : String)
  | order (low high : UInt8)
  | misaligned
  | classInSecond
  | classAtEnd
  | emptySecond
  | fillInFirst
  | severalFills
  | complementedClass
  deriving DecidableEq, Repr

def Flaw.text : Flaw → String
  | unknownClass name => s!"invalid character class '{name}'"
  | equivalence text => s!"{text}: equivalence class operand must be a single character"
  | count text => s!"invalid repeat count '{text}' in [c*n] construct"
  | order low high =>
    let name := fun (b : UInt8) => String.ofList [Char.ofNat b.toNat]
    s!"range-endpoints of '{name low}-{name high}' are in reverse collating sequence order"
  | misaligned => "misaligned [:upper:] and/or [:lower:] construct"
  | classInSecond =>
    "when translating, the only character classes that may appear in\nstring2 are 'upper' and 'lower'"
  | classAtEnd =>
    "when translating with string1 longer than string2,\n" ++
      "the latter string must not end with a character class"
  | emptySecond => "when not truncating set1, string2 must be non-empty"
  | fillInFirst => "the [c*] repeat construct may not appear in string1"
  | severalFills => "only one [c*] repeat construct may appear in string2"
  | complementedClass =>
    "when translating with complemented character classes,\n" ++
      "string2 must map all characters in the domain to one"

/-! ## Reading -/

/-- A byte of a set, and whether it has been written with a backslash. -/
abbrev Sign : Type :=
  UInt8 × Bool

def simple? : UInt8 → Option UInt8
  | 0x61 => some 0x07
  | 0x62 => some 0x08
  | 0x66 => some 0x0c
  | 0x6e => some 0x0a
  | 0x72 => some 0x0d
  | 0x74 => some 0x09
  | 0x76 => some 0x0b
  | _ => none

def octal? (b : UInt8) : Option Nat :=
  if 0x30 ≤ b && b ≤ 0x37 then some (b.toNat - 0x30) else none

/-- Reads escapes. An octal number has at most three digits, and two if three make no byte. Whether
the text ends in a backslash is told along. -/
def signs : List UInt8 → List Sign × Bool
  | [] => ([], false)
  | [0x5c] => ([(0x5c, false)], true)
  | 0x5c :: a :: rest =>
    let one := fun (sign : Sign) (more : List Sign × Bool) => (sign :: more.1, more.2)
    match octal? a, rest with
    | some x, b :: c :: more =>
      match octal? b, octal? c with
      | some y, some z =>
        if 64 * x + 8 * y + z < 256 then
          one (UInt8.ofNat (64 * x + 8 * y + z), true) (signs more)
        else one (UInt8.ofNat (8 * x + y), true) (signs (c :: more))
      | some y, none => one (UInt8.ofNat (8 * x + y), true) (signs (c :: more))
      | none, _ => one (UInt8.ofNat x, true) (signs (b :: c :: more))
    | some x, [b] =>
      match octal? b with
      | some y => ([(UInt8.ofNat (8 * x + y), true)], false)
      | none => one (UInt8.ofNat x, true) (signs [b])
    | some x, [] => ([(UInt8.ofNat x, true)], false)
    | none, rest => one ((simple? a).getD a, true) (signs rest)
  | b :: rest =>
    let (more, ended) := signs rest
    ((b, false) :: more, ended)

def textOf (signs : List Sign) : String :=
  Text.Utf8.decodeString (signs.map (·.1))

/-- The signs up to a closing pair of a byte and a bracket, and those behind it. -/
def upTo (mark : UInt8) : List Sign → List Sign → Option (List Sign × List Sign)
  | _, [] => none
  | before, (a, escaped) :: rest =>
    match rest with
    | (0x5d, false) :: more =>
      if a = mark && !escaped then some (before.reverse, more)
      else upTo mark ((a, escaped) :: before) rest
    | _ => upTo mark ((a, escaped) :: before) rest

/-- The count in a repetition; it is octal behind a zero, and as much as is needed if it is left
out. -/
def count? (signs : List Sign) : Option Nat :=
  let digits := (textOf signs).toList
  if signs.any (·.2) then none
  else if digits.isEmpty then some 0
  else if digits.head? = some '0' then
    match Escape.digits 8 Escape.octal? digits.length 0 digits with
    | (n, []) => some n
    | _ => none
  else (String.ofList digits).toNat?

/-- Reads a piece in brackets, or none if the bracket stands for itself. -/
def bracketed? : List Sign → Except Flaw (Option (Item × List Sign))
  | (0x3a, false) :: rest =>
    match upTo 0x3a [] rest with
    | some (name, more) =>
      if (characterClasses.lookup (textOf name)).isSome then .ok (some (.named (textOf name), more))
      else .error (.unknownClass (textOf name))
    | none => .ok none
  | (0x3d, false) :: rest =>
    match upTo 0x3d [] rest with
    | some ([(b, _)], more) => .ok (some (.range b b, more))
    | some (text, _) => .error (.equivalence (textOf text))
    | none => .ok none
  | (b, _) :: (0x2a, false) :: rest =>
    let inside := rest.takeWhile (· ≠ (0x5d, false))
    match rest.drop inside.length with
    | _ :: more =>
      match count? inside with
      | some n => .ok (some (.repeated b n, more))
      | none => .error (.count (textOf inside))
    | [] => .ok none
  | _ => .ok none

/-- Reads the pieces of a set. The number bounds the steps. -/
def items : Nat → List Sign → Except Flaw (List Item)
  | 0, _ | _ + 1, [] => .ok []
  | n + 1, (b, escaped) :: rest =>
    match (if b = 0x5b && !escaped then bracketed? rest else .ok none) with
    | .error flaw => .error flaw
    | .ok (some (item, more)) => (items n more).map (item :: ·)
    | .ok none =>
      match rest with
      | (0x2d, false) :: (high, _) :: more =>
        if high < b then .error (.order b high) else (items n more).map (.range b high :: ·)
      | _ => (items n rest).map (.range b b :: ·)

/-! ## Sets -/

def allBytes : List UInt8 :=
  (List.range 256).map UInt8.ofNat

def inClass (name : String) (b : UInt8) : Bool :=
  b < 0x80 && inRanges ((characterClasses.lookup name).getD []) (Char.ofNat b.toNat)

def Item.bytes : Item → List UInt8
  | range low high => allBytes.filter fun b => low ≤ b && b ≤ high
  | named name => allBytes.filter (inClass name)
  | repeated b n => List.replicate n b

def Item.isClass : Item → Bool
  | named _ => true
  | _ => false

/-- Whether a piece is a class in which each letter has a partner. -/
def Item.hasCase : Item → Bool
  | named name => name = "upper" || name = "lower"
  | _ => false

def Item.isFill : Item → Bool
  | repeated _ n => n = 0
  | _ => false

def bytesOf (items : List Item) : List UInt8 :=
  items.flatMap Item.bytes

/-- Fills up a set to a length where it has been left open. -/
def filled (length : Nat) (items : List Item) : List Item :=
  let room := length - (bytesOf items).length
  items.map fun item =>
    match item with
    | .repeated b 0 => .repeated b room
    | item => item

/-- The pieces together with the places at which their bytes begin. -/
def placed : Nat → List Item → List (Nat × Item)
  | _, [] => []
  | n, item :: rest => (n, item) :: placed (n + item.bytes.length) rest

/-- Checks a set that others are to be exchanged for. -/
def checkSecond (first second : List Item) (complemented truncated : Bool) : Except Flaw Unit := do
  let places := placed 0 first
  if second.any fun item => item.isClass && !item.hasCase then throw .classInSecond
  let aligned := (placed 0 second).all fun (n, item) =>
    !item.hasCase || !complemented && places.any fun (m, other) => m = n && other.hasCase
  if !aligned then throw .misaligned
  let length := if complemented then 256 - (bytesOf first).eraseDups.length
    else (bytesOf first).length
  if !truncated && (bytesOf second).length < length then
    if second.isEmpty then throw .emptySecond
    if second.getLast?.any Item.isClass then throw .classAtEnd
  if complemented && first.any Item.isClass &&
      !((bytesOf second).eraseDups.length = 1 && !truncated) then
    throw .complementedClass

/-- For each byte of the first set the one at the same place of the second, which goes on with its
last byte; later places count more. -/
def partner (first second : List UInt8) (b : UInt8) : UInt8 :=
  let pairs := first.zip (second ++ List.replicate (first.length - second.length)
    (second.getLast?.getD 0))
  ((pairs.reverse.lookup b)).getD b

/-- Of bytes in a row that are equal and in a set only the first. -/
def squeezed (set : UInt8 → Bool) (text : List UInt8) : List UInt8 :=
  (text.foldl (fun (out, last) b =>
    if set b && last = some b then (out, last) else (b :: out, some b))
    (([] : List UInt8), (none : Option UInt8))).1.reverse

def rules : List OptionRule := [
  { letter := 'c', words := ["complement"] }, { letter := 'C' },
  { letter := 'd', words := ["delete"] }, { letter := 's', words := ["squeeze-repeats"] },
  { letter := 't', words := ["truncate-set1"] }]

/-- What is wrong about the number of operands. -/
def operandFlaw? (deletes squeezes : Bool) (operands : List String) : Option String :=
  let two := "Two strings must be given when "
  let least := if deletes = squeezes then 2 else 1
  let most := if deletes && !squeezes then 1 else 2
  match operands with
  | [] => some "missing operand"
  | [one] =>
    if least ≤ 1 then none
    else some (s!"missing operand after '{one}'\n" ++ two ++
      (if squeezes then "both deleting and squeezing repeats." else "translating."))
  | [_, second] =>
    if most = 2 then none
    else some (s!"extra operand '{second}'\n" ++
      "Only one string may be given when deleting without squeezing repeats.")
  | _ :: second :: third :: _ =>
    some s!"extra operand '{if most = 2 then third else second}'"

def read (set : String) : Except Flaw (List Item) :=
  let found := (signs (bytes set)).1
  items (found.length + 1) found

/-- The text after the exchange. -/
def result (g : OptionRule.Given) (first second : List Item) (text : List UInt8) :
    Except Flaw (List UInt8) := do
  let complemented := g.has 'c' || g.has 'C'
  let ownBytes := bytesOf first
  let firstBytes := if complemented then allBytes.filter (!ownBytes.contains ·) else ownBytes
  if first.any Item.isFill then throw .fillInFirst
  if 1 < second.countP Item.isFill then throw .severalFills
  let second := filled firstBytes.length second
  let secondBytes := bytesOf second
  if g.has 'd' then
    let kept := text.filter (!firstBytes.contains ·)
    return if g.has 's' then squeezed secondBytes.contains kept else kept
  else if g.operands.length = 1 then return squeezed firstBytes.contains text
  else
    checkSecond first second complemented (g.has 't')
    let firstBytes := if g.has 't' then firstBytes.take secondBytes.length else firstBytes
    let table := allBytes.map (partner firstBytes secondBytes)
    let changed := text.map fun b => table[b.toNat]?.getD b
    return if g.has 's' then squeezed secondBytes.contains changed else changed

end Exchange

open Exchange in
def tr : Program := fun c =>
  match OptionRule.readAll rules true {} c.arguments with
  | .error flaw => .misuse c flaw.text 1
  | .ok g =>
    match operandFlaw? (g.has 'd') (g.has 's') g.operands with
    | some text => .misuse c text 1
    | none =>
      let warned := g.operands.flatMap fun set =>
        if (signs (bytes set)).2 then
          bytes s!"{c.name}: warning: an unescaped backslash at end of string is not portable\n"
        else []
      let made := do
        let first ← read (g.operands.headD "")
        let second ← read (g.operands.tail.headD "")
        result g first second c.input
      match made with
      | .error flaw => .complain c flaw.text 1
      | .ok stdout => { stdout, stderr := warned, unread := some [] }

end Testbed.Machine
