import Testbed.Digest.Hex
import Testbed.Digest.Sha256
import Testbed.Machine.Tool.Options

/-! # Streams

The tools that copy files and the input, as they are, in part or line by line, and
the one that counts what they hold.
-/

namespace Testbed.Machine

/-! ## Copies -/

namespace Copy

def caret (b : UInt8) : List UInt8 :=
  if b < 0x20 then [0x5e, b + 0x40] else if b = 0x7f then [0x5e, 0x3f] else [b]

/-- A byte in printable characters; tabs and line feeds stay. -/
def visible (b : UInt8) : List UInt8 :=
  if 0x80 ≤ b then bytes "M-" ++ caret (b - 0x80)
  else if b = 0x09 || b = 0x0a then [b]
  else caret b

def isBlankLine (line : List UInt8) : Bool :=
  line = [0x0a]

/-- Of blank lines in a row only the first. -/
def squeezed : List (List UInt8) → List (List UInt8)
  | [] => []
  | line :: rest =>
    if isBlankLine line && (rest.head?.any isBlankLine) then squeezed rest
    else line :: squeezed rest

/-- The lines with a number in front of each that is to be counted. -/
def numbered (counts : List UInt8 → Bool) : Nat → List (List UInt8) → List (List UInt8)
  | _, [] => []
  | n, line :: rest =>
    if counts line then (bytes (rightAligned 6 n ++ "\t") ++ line) :: numbered counts (n + 1) rest
    else line :: numbered counts n rest

/-- A line as the options want it shown. -/
def shown (ends tabs others : Bool) (line : List UInt8) : List UInt8 :=
  let body := (chomp line).flatMap fun b =>
    if b = 0x09 && tabs then bytes "^I" else if others then visible b else [b]
  if chomp line = line then body
  else body ++ (if ends then [0x24, 0x0a] else [0x0a])

end Copy

def faultOf (operand : String) (fault : Fault) : String :=
  s!"{operand}: {fault.text}"

def cat : Program :=
  withOptions [
    { letter := 'A', words := ["show-all"] }, { letter := 'b', words := ["number-nonblank"] },
    { letter := 'e' }, { letter := 'E', words := ["show-ends"] },
    { letter := 'n', words := ["number"] }, { letter := 's', words := ["squeeze-blank"] },
    { letter := 't' }, { letter := 'T', words := ["show-tabs"] }, { letter := 'u' },
    { letter := 'v', words := ["show-nonprinting"] }] (fun c g =>
    let (text, complaints) := c.readJoined g.operands faultOf
    let anyOf := fun (letters : String) => letters.toList.any g.has
    if anyOf "AbeEnstTv" then
      let lines := byteLines text
      let lines := if g.has 's' then Copy.squeezed lines else lines
      let lines := lines.map (Copy.shown (anyOf "AeE") (anyOf "AtT") (anyOf "Aetv"))
      let lines := if g.has 'b' then
          Copy.numbered (fun line => !(line = [0x0a] || line = [0x24, 0x0a])) 1 lines
        else if g.has 'n' then Copy.numbered (fun _ => true) 1 lines
        else lines
      .fromOperands g.operands lines.flatten complaints 1
    else .fromOperands g.operands text complaints 1) 1

/-- The lines from the last to the first. -/
def tac : Program :=
  withOptions [] (fun c g =>
    let parts := (c.readOperands g.operands).map fun (operand, r) =>
      match r with
      | .ok text => ((byteLines text).reverse.flatten, [])
      | .error .isDirectory => ([], bytes s!"{c.name}: {operand}: read error: Is a directory\n")
      | .error fault =>
        ([], bytes s!"{c.name}: failed to open '{operand}' for reading: {fault.text}\n")
    .fromOperands g.operands (parts.flatMap (·.1)) (parts.flatMap (·.2)) 1) 1

/-- Each line from its last byte to its first. -/
def rev : Program :=
  withOptions [] (fun c g =>
    let (text, complaints) := c.readJoined g.operands fun operand fault =>
      s!"cannot open {operand}: {fault.text}"
    let turned := (byteLines text).flatMap fun line =>
      (chomp line).reverse ++ (if chomp line = line then [] else [0x0a])
    .fromOperands g.operands turned complaints 1) 1

/-- Copies the input to files as well. -/
def tee : Program :=
  withOptions [{ letter := 'a', words := ["append"] },
    { letter := 'i', words := ["ignore-interrupts"] }, { letter := 'p' }] (fun c g =>
    let store := fun (files : FileTree) (path : String) =>
      let before := if g.has 'a' then (files.read? path).getD "" else ""
      files.write path (before ++ Text.Utf8.decodeString c.input)
    let step := fun ((files, complaints) : FileTree × List UInt8) (path : String) =>
      match store files path with
      | .ok files => (files, complaints)
      | .error fault => (files, complaints ++ bytes s!"{c.name}: {faultOf path fault}\n")
    let (files, complaints) := g.operands.foldl step (c.files, [])
    { exitCode := if complaints.isEmpty then 0 else 1
      stdout := c.input, stderr := complaints, unread := some [], files := some files }) 1

/-- A line again and again, as often as it takes to fill what reads it. -/
def yes : Program := fun c =>
  let line := bytes ((if c.arguments.isEmpty then "y" else " ".intercalate c.arguments) ++ "\n")
  { exitCode := -13, stdout := (List.replicate (65536 / line.length + 1) line).flatten }

/-- The digest of each operand, with its name. -/
def sha256sum : Program :=
  withOptions [{ letter := 'b', words := ["binary"] }, { letter := 't', words := ["text"] }]
    (fun c g =>
    let parts := (c.readOperands g.operands).map fun (operand, r) =>
      match r with
      | .ok text =>
        let digest := String.ofList (Digest.hex (Digest.sha256 text).toList)
        let mark := if g.has 'b' then "*" else " "
        (bytes s!"{digest} {mark}{operand}\n", [])
      | .error fault => ([], bytes s!"{c.name}: {faultOf operand fault}\n")
    .fromOperands g.operands (parts.flatMap (·.1)) (parts.flatMap (·.2)) 1) 1

/-! ## Parts -/

namespace Part

/-- How much is wanted of a text, in lines or bytes: so much from one of its ends, or all but so
much. -/
structure Wish where
  bytewise : Bool := false
  amount : Nat := 10
  /-- With a sign in front that turns the meaning round. -/
  marked : Bool := false
  deriving DecidableEq, Repr

def units : List (String × Nat) :=
  ("", 1) :: ("b", 512) :: ("k", 1024) :: ("m", 1048576) ::
    (["K", "M", "G", "T", "P", "E"].zipIdx 1).flatMap fun (u, e) =>
      let (binary, decimal) := (Nat.pow 1024 e, Nat.pow 1000 e)
      [(u, binary), (u ++ "iB", binary), (u ++ "B", decimal), (u.toLower ++ "B", decimal)]

/-- A number and the unit behind it. -/
def amount? (cs : List Char) : Option Nat :=
  let digits := cs.takeWhile Char.isDigit
  let unit := units.lookup (String.ofList (cs.drop digits.length))
  match (String.ofList digits).toNat?, unit with
  | some n, some unit => some (n * unit)
  | _, _ => none

/-- Reads a wish, whose meaning the given sign turns round. -/
def wish? (sign : Char) (bytewise : Bool) (argument : String) : Except String Wish :=
  let cs := argument.toList
  let amount := if cs.head? = some '-' then cs.tail else cs
  let digits := amount.dropWhile (· = ' ')
  let digits := if digits.head? = some '+' then digits.tail else digits
  let what := if bytewise then "bytes" else "lines"
  let text := s!"invalid number of {what}: '{String.ofList amount}'"
  match amount? digits with
  | none => .error text
  | some n =>
    if UInt64.size ≤ n then .error (text ++ ": Value too large for defined data type")
    else .ok { bytewise, amount := n, marked := cs.head? = some sign }

/-- From the start so much, or all but so much of the end. -/
def Wish.first (w : Wish) (text : List UInt8) : List UInt8 :=
  let pick := fun {β : Type} (items : List β) =>
    items.take (if w.marked then items.length - w.amount else w.amount)
  if w.bytewise then pick text else (pick (byteLines text)).flatten

/-- At the end so much, or from a place on, counted from one. -/
def Wish.last (w : Wish) (text : List UInt8) : List UInt8 :=
  let pick := fun {β : Type} (items : List β) =>
    items.drop (if w.marked then w.amount - 1 else items.length - w.amount)
  if w.bytewise then pick text else (pick (byteLines text)).flatten

def rules : List OptionRule := [
  { letter := 'c', words := ["bytes"], takesArgument := true },
  { letter := 'n', words := ["lines"], takesArgument := true },
  { letter := 'q', words := ["quiet", "silent"] }, { letter := 'v', words := ["verbose"] }]

/-- What sets the tool for one end of a text apart from that for the other. -/
structure End where
  /-- The sign that turns the meaning of a number round. -/
  sign : Char
  pick : Wish → List UInt8 → List UInt8
  /-- A number of lines may stand for an option in front of at most so many arguments. -/
  followers : Option Nat
  /-- What is said about such a number elsewhere. -/
  misplaced : Call → Char → Output

/-- A number that stands for an option by itself is the number of lines. -/
def End.spelledOut (e : End) : List String → List String
  | [] => []
  | argument :: rest =>
    match argument.toList with
    | c :: d :: digits =>
      if (c = '-' || c = e.sign) && (d :: digits).all Char.isDigit &&
          e.followers.all (rest.length ≤ ·) then
        "-n" :: (if c = '-' then String.ofList (d :: digits) else argument) :: rest
      else argument :: rest
    | _ => argument :: rest

/-- The wish that counts is the last one. -/
def End.wish (e : End) (g : OptionRule.Given) : Except String Wish :=
  match (g.options.filter fun (letter, _) => letter = 'c' || letter = 'n').getLast? with
  | none => .ok {}
  | some (letter, argument) => wish? e.sign (letter = 'c') argument

/-- Writes a part of each operand, under its name if there are several. -/
def End.write (e : End) (c : Call) (g : OptionRule.Given) : Output :=
  match e.wish g with
  | .error text => .complain c text 1
  | .ok wish =>
    let headed := g.has 'v' || 1 < g.operands.length && !g.has 'q'
    let step := fun ((out, complaints) : List UInt8 × List UInt8)
        ((operand, r) : String × Except Fault (List UInt8)) =>
      let name := if operand = "-" then "standard input" else operand
      let header := if !headed then []
        else bytes ((if out.isEmpty then "" else "\n") ++ s!"==> {name} <==\n")
      match r with
      | .ok text => (out ++ header ++ e.pick wish text, complaints)
      | .error .isDirectory =>
        (out ++ header, complaints ++
          bytes s!"{c.name}: error reading '{operand}': Is a directory\n")
      | .error fault =>
        (out, complaints ++
          bytes s!"{c.name}: cannot open '{operand}' for reading: {fault.text}\n")
    let (out, complaints) := (c.readOperands g.operands).foldl step ([], [])
    .fromOperands g.operands out complaints 1

def End.tool (e : End) : Program := fun c =>
  match OptionRule.readAll rules false {} (e.spelledOut c.arguments) with
  | .ok g => e.write c g
  | .error (.unknownLetter l) =>
    if l.isDigit then e.misplaced c l else .misuse c (OptionRule.Flaw.unknownLetter l).text 1
  | .error flaw => .misuse c flaw.text 1

end Part

def head : Program :=
  Part.End.tool {
    sign := '-', pick := Part.Wish.first, followers := none
    misplaced := fun c l => .misuse c s!"invalid trailing option -- {l}" 1 }

def tail : Program :=
  Part.End.tool {
    sign := '+', pick := Part.Wish.last, followers := some 1
    misplaced := fun c l => .complain c s!"option used in invalid context -- {l}" 1 }

/-! ## Counts -/

namespace Count

def isSpace (b : UInt8) : Bool :=
  b = 0x20 || 0x09 ≤ b && b ≤ 0x0d

/-- How many words there are, of which one may have begun before. -/
def words : Bool → List UInt8 → Nat
  | _, [] => 0
  | inside, b :: rest =>
    if isSpace b then words false rest
    else if inside then words true rest
    else words true rest + 1

/-- The columns of the longest line. -/
def longest (text : List UInt8) : Nat :=
  let width := fun (line : List UInt8) =>
    (chomp line).foldl (fun n b => if b = 0x09 then (n / 8 + 1) * 8 else n + 1) 0
  ((byteLines text).map width).foldl max 0

/-- What is counted, in the order in which it is written. -/
def measures : List (Char × (List UInt8 → Nat)) := [
  ('l', fun text => text.count 0x0a), ('w', words false), ('m', List.length),
  ('c', List.length), ('L', longest)]

end Count

/-- Counts lines, words and bytes. A single number stands alone; several are aligned, widely
unless all of them have been taken from files. -/
def wc : Program :=
  withOptions [
    { letter := 'c', words := ["bytes"] }, { letter := 'm', words := ["chars"] },
    { letter := 'l', words := ["lines"] }, { letter := 'L', words := ["max-line-length"] },
    { letter := 'w', words := ["words"] }] (fun c g =>
    let wanted := Count.measures.filter fun (letter, _) =>
      if g.options.isEmpty then "lwc".toList.contains letter else g.has letter
    let all := c.readOperands g.operands
    let isFile := fun (operand : String) =>
      match c.files.find operand with
      | .ok (.file _) => operand ≠ "-"
      | _ => false
    let isMissing := fun (operand : String) => (c.files.find operand).toOption.isNone
    let total := (all.flatMap fun (_, r) => r.toOption.getD []).length
    let width := if wanted.length = 1 && all.length = 1 then 1
      else if all.all fun (operand, _) => isFile operand || operand ≠ "-" && isMissing operand then
        (toString total).length
      else 7
    let line := fun (numbers : List Nat) (name : String) =>
      " ".intercalate (numbers.map (rightAligned width)) ++
        (if name.isEmpty then "" else s!" {name}") ++ "\n"
    let counts := fun (text : List UInt8) => wanted.map (·.2 text)
    let lines := all.map fun (operand, r) =>
      let name := if g.operands.isEmpty then "" else operand
      match r with
      | .ok text => line (counts text) name
      | .error .isDirectory => line (counts []) name
      | .error _ => ""
    let complaints := all.flatMap fun (operand, r) =>
      match r with
      | .ok _ => []
      | .error fault => bytes s!"{c.name}: {faultOf operand fault}\n"
    let sums := wanted.map fun (letter, measure) =>
      let found := all.map fun (_, r) => measure (r.toOption.getD [])
      if letter = 'L' then found.foldl max 0 else found.foldl (· + ·) 0
    let last := if 1 < all.length then line sums "total" else ""
    .fromOperands g.operands (bytes (String.join lines ++ last)) complaints 1) 1

end Testbed.Machine
