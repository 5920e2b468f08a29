import Testbed.Machine.Escape
import Testbed.Machine.Tool.Decimal

/-! # Formatted output

A format is a list of pieces: bytes written as they are, and directives that
take one argument each. It is used again as long as arguments are left. There are
two dialects, that of the tool and that of the command interpreter.
-/

namespace Testbed.Machine

namespace Printf

inductive Dialect where
  | tool
  | builtin
  deriving DecidableEq, Repr

inductive Style where
  | fixed
  | scientific
  | general
  deriving DecidableEq, Repr

inductive Conversion where
  | text
  | escapedText
  | character
  | decimal
  | unsigned
  | octal
  | hex (upper : Bool)
  | fraction (way : Style) (upper : Bool)
  deriving DecidableEq, Repr

/-- A width or a precision: a number, or one more argument. -/
inductive Size where
  | number (n : Nat)
  | argument
  deriving DecidableEq, Repr

structure Directive where
  flags : List Char := []
  width : Size := .number 0
  precision : Option Size := none
  conversion : Conversion
  deriving DecidableEq, Repr

inductive Piece where
  | literal (bytes : List UInt8)
  | directive (directive : Directive)
  /-- Ends the output. -/
  | halt
  /-- Ends the output with a complaint. -/
  | flaw (complaint : String)
  deriving DecidableEq, Repr

def conversion? : Char → Option Conversion
  | 's' => some .text
  | 'b' => some .escapedText
  | 'c' => some .character
  | 'd' | 'i' => some .decimal
  | 'u' => some .unsigned
  | 'o' => some .octal
  | 'x' => some (.hex false)
  | 'X' => some (.hex true)
  | 'f' => some (.fraction .fixed false)
  | 'F' => some (.fraction .fixed true)
  | 'e' => some (.fraction .scientific false)
  | 'E' => some (.fraction .scientific true)
  | 'g' => some (.fraction .general false)
  | 'G' => some (.fraction .general true)
  | _ => none

namespace Dialect

/-- The escapes of a format. -/
def rules : Dialect → Escape.Rules
  | tool => { quotes := true }
  | builtin => { hex := false, halts := false }

/-- The escapes of an argument. -/
def argumentRules : Dialect → Escape.Rules
  | tool => { zeroFirst := true, quotes := true }
  | builtin => { zeroFirst := true, hex := false }

/-- The tool takes letters that tell the size of a number. -/
def isModifier (d : Dialect) (c : Char) : Bool :=
  d = tool && "lLhjtz".toList.contains c

/-- The tool takes flags and sizes only where they make a difference. -/
def allows (d : Dialect) (directive : Directive) (modified : Bool) : Bool :=
  let plain := fun (c : Char) => c = '-' || c = '+' || c = ' '
  match d, directive.conversion with
  | builtin, _ => !modified
  | tool, .escapedText => directive = { conversion := .escapedText } && !modified
  | tool, .character => directive.flags.all plain && directive.precision.isNone
  | tool, .text => directive.flags.all plain
  | tool, .decimal | tool, .unsigned => !directive.flags.contains '#'
  | tool, _ => true

def invalid (d : Dialect) (directive : String) : String :=
  match d with
  | tool => s!"{directive}: invalid conversion specification"
  | builtin => if directive = "%" then "missing format character" else s!"{directive}: invalid directive"

/-- An argument in quotes, in which quotes and backslashes are marked. -/
def quoted (argument : String) : String :=
  let mark := fun (c : Char) => if c = '\x27' || c = '\\' then ['\\', c] else [c]
  "'" ++ String.ofList (argument.toList.flatMap mark) ++ "'"

def noNumber (d : Dialect) (argument : String) : String :=
  match d with
  | tool => s!"{quoted argument}: expected a numeric value"
  | builtin => s!"{argument}: expected numeric value"

def halfNumber (d : Dialect) (argument : String) : String :=
  match d with
  | tool => s!"{quoted argument}: value not completely converted"
  | builtin => s!"{argument}: not completely converted"

def outOfRange (d : Dialect) (argument : String) : String :=
  match d with
  | tool => s!"{quoted argument}: Numerical result out of range"
  | builtin => s!"{argument}: Numerical result out of range"

/-- The bits in which fractions are kept. -/
def precision : Dialect → Nat
  | tool => 64
  | builtin => 53

end Dialect

/-! ## Reading a format -/

/-- Reads a width or a precision. -/
def readSize : List Char → Size × List Char
  | '*' :: rest => (.argument, rest)
  | cs => (.number (Escape.digits 10 Escape.decimal? cs.length 0 cs).1, cs.dropWhile Char.isDigit)

/-- Reads a directive behind its percent sign. -/
def readDirective (d : Dialect) (cs : List Char) : Piece × List Char :=
  let isFlag := fun c => "-+ #0".toList.contains c || d = .tool && c = '\x27'
  let flags := cs.takeWhile isFlag
  let (width, rest) := readSize (cs.drop flags.length)
  let (precision, rest) := match rest with
    | '.' :: rest =>
      let (size, rest) := readSize rest
      (some size, rest)
    | rest => (none, rest)
  let modifiers := rest.takeWhile d.isModifier
  let rest := rest.drop modifiers.length
  let whole := fun (left : List Char) =>
    String.ofList ('%' :: cs.take (cs.length - left.length))
  match rest with
  | [] => (.flaw (d.invalid (whole [])), [])
  | c :: rest =>
    match conversion? c with
    | none => (.flaw (d.invalid (whole rest)), rest)
    | some conversion =>
      let directive : Directive := { flags, width, precision, conversion }
      if d.allows directive (!modifiers.isEmpty) then (.directive directive, rest)
      else (.flaw (d.invalid (whole rest)), rest)

/-- The pieces of a format. The number bounds the pieces; the length of the format suffices. -/
def parse (d : Dialect) : Nat → List Char → List Piece
  | 0, _ | _ + 1, [] => []
  | n + 1, '%' :: '%' :: rest => .literal (bytes "%") :: parse d n rest
  | n + 1, '%' :: rest =>
    let (piece, rest) := readDirective d rest
    piece :: parse d n rest
  | n + 1, '\\' :: 'x' :: rest =>
    if d = .tool && !rest.head?.any (Escape.hex? · |>.isSome) then
      [.flaw "missing hexadecimal number in escape"]
    else
      let (written, rest, _) := Escape.read d.rules ('x' :: rest)
      .literal written :: parse d n rest
  | n + 1, '\\' :: rest =>
    let (written, rest, ended) := Escape.read d.rules rest
    .literal written :: (if ended then [.halt] else parse d n rest)
  | n + 1, c :: rest => .literal (bytes (String.ofList [c])) :: parse d n rest

/-! ## Arguments -/

/-- The largest numbers with a sign and without. -/
def largest (signed : Bool) : Nat :=
  if signed then UInt64.size / 2 - 1 else UInt64.size - 1

/-- The character behind a quote that an argument begins with. -/
def quotedCharacter? (argument : String) : Option Nat :=
  match argument.toList with
  | '\x27' :: c :: _ | '\"' :: c :: _ => (bytes (String.ofList [c])).head?.map UInt8.toNat
  | _ => none

/-- What is wrong with a numeric argument, of which something is left unread. -/
def numberComplaint (d : Dialect) (argument : String) (isNumber : Bool) (rest : List Char) :
    Option String :=
  if argument.isEmpty then none
  else if !isNumber then some (d.noNumber argument)
  else if rest.isEmpty then none
  else some (d.halfNumber argument)

/-- The value of an integer argument, and a complaint if it is none. -/
def integer (d : Dialect) (signed : Bool) (argument : String) : Int × Option String :=
  match quotedCharacter? argument with
  | some n => (n, none)
  | none =>
    let cs := argument.toList.dropWhile Char.isWhitespace
    let (negative, cs) := match cs with
      | '-' :: rest => (true, rest)
      | '+' :: rest => (false, rest)
      | cs => (false, cs)
    let (value, rest) := match cs with
      | '0' :: 'x' :: c :: rest | '0' :: 'X' :: c :: rest =>
        if (Escape.hex? c).isSome then Escape.digits 16 Escape.hex? (rest.length + 1) 0 (c :: rest)
        else (0, 'x' :: c :: rest)
      | '0' :: rest => Escape.digits 8 Escape.octal? rest.length 0 rest
      | cs => Escape.digits 10 Escape.decimal? cs.length 0 cs
    let limit := largest signed + (if negative && signed then 1 else 0)
    let n : Int := if limit < value then (if negative && signed then -limit else limit)
      else if negative then -value else value
    let complaint := numberComplaint d argument (rest.length < cs.length) rest
    (n, if limit < value then some (d.outOfRange argument) else complaint)

def fraction (d : Dialect) (argument : String) : Fraction × Option String :=
  match quotedCharacter? argument with
  | some n => ({ numerator := n }, none)
  | none =>
    match readFraction (argument.toList.dropWhile Char.isWhitespace) with
    | some (f, rest) => (f.toBits d.precision, numberComplaint d argument true rest)
    | none => ({ numerator := 0 }, numberComplaint d argument false [])

/-! ## Writing -/

/-- A directive with its sizes. -/
structure Layout where
  left : Bool
  flags : List Char
  width : Nat
  precision : Option Nat

def Layout.pad (l : Layout) (body : List UInt8) : List UInt8 :=
  let fill := l.width - body.length
  if l.left then body ++ List.replicate fill 0x20
  else List.replicate fill 0x20 ++ body

/-- Zeros that are asked for go between the sign and the digits. -/
def Layout.number (l : Layout) (sign digits : String) (wanted : Nat) : List UInt8 :=
  let zeros := String.ofList (List.replicate (wanted - digits.length) '0')
  l.pad (bytes (sign ++ zeros ++ digits))

/-- How many digits a number gets at least. -/
def Layout.digits (l : Layout) (sign : String) (whole : Bool) : Nat :=
  match l.precision, whole with
  | some p, true => p
  | _, _ => if l.flags.contains '0' && !l.left then l.width - sign.length else 0

def Layout.sign (l : Layout) (negative : Bool) : String :=
  if negative then "-"
  else if l.flags.contains '+' then "+"
  else if l.flags.contains ' ' then " "
  else ""

/-- Unsigned conversions show a negative number by its two's complement in 64 bits. -/
def wrapped (n : Int) : Nat :=
  (n % UInt64.size).toNat

def radix (n : Nat) (base : Nat) : String :=
  String.ofList (Nat.toDigits base n)

/-- What a directive writes for an argument, what it complains about, and whether output ends. -/
def write (d : Dialect) (l : Layout) (c : Conversion) (argument : String) :
    List UInt8 × Option String × Bool :=
  match c with
  | .text =>
    let all := bytes argument
    (l.pad (match l.precision with | some p => all.take p | none => all), none, false)
  | .escapedText =>
    let (written, ended) := Escape.expand d.argumentRules argument.toList
    (l.pad written, none, ended)
  | .character => (l.pad (((bytes argument).head?.getD 0) :: []), none, false)
  | .decimal =>
    let (n, complaint) := integer d true argument
    let sign := l.sign (n < 0)
    (l.number sign (toString n.natAbs) (l.digits sign true), complaint, false)
  | .unsigned =>
    let (n, complaint) := integer d false argument
    (l.number "" (toString (wrapped n)) (l.digits "" true), complaint, false)
  | .octal =>
    let (n, complaint) := integer d false argument
    let digits := radix (wrapped n) 8
    let digits := if l.flags.contains '#' && n ≠ 0 then "0" ++ digits else digits
    (l.number "" digits (l.digits "" true), complaint, false)
  | .hex upper =>
    let (n, complaint) := integer d false argument
    let digits := radix (wrapped n) 16
    let sign := if l.flags.contains '#' && n ≠ 0 then (if upper then "0X" else "0x") else ""
    (l.number sign (if upper then digits.toUpper else digits) (l.digits sign true), complaint, false)
  | .fraction way upper =>
    let (f, complaint) := fraction d argument
    let places := l.precision.getD 6
    let digits := match way with
      | .fixed => f.fixed places
      | .scientific => f.scientific places
      | .general => f.general places
    let sign := l.sign f.negative
    (l.number sign (if upper then digits.toUpper else digits) (l.digits sign false), complaint, false)

structure State where
  arguments : List String
  output : List UInt8 := []
  complaints : List String := []
  ended : Bool := false
  /-- A flaw of the format has been met. -/
  broken : Bool := false

/-- Takes a size, from the arguments if need be. -/
def State.size (d : Dialect) (size : Size) (s : State) : Int × State :=
  match size with
  | .number n => (n, s)
  | .argument =>
    ((integer d true (s.arguments.headD "")).1, { s with arguments := s.arguments.tail })

/-- Uses a piece; a directive without an argument writes what it does for an empty one. -/
def step (d : Dialect) (s : State) (piece : Piece) : State :=
  if s.ended then s
  else
    match piece with
    | .literal written => { s with output := s.output ++ written }
    | .halt => { s with ended := true }
    | .flaw complaint =>
      { s with complaints := s.complaints ++ [complaint], ended := true, broken := true }
    | .directive directive =>
      let (width, s) := s.size d directive.width
      let (precision, s) := match directive.precision with
        | none => (none, s)
        | some size =>
          let (n, s) := s.size d size
          (if n < 0 then none else some n.toNat, s)
      let left := directive.flags.contains '-' || width < 0
      let layout : Layout := { left, flags := directive.flags, width := width.natAbs, precision }
      let (written, complaint, ended) := write d layout directive.conversion (s.arguments.headD "")
      { s with
        output := s.output ++ written
        complaints := s.complaints ++ complaint.toList
        ended
        arguments := s.arguments.tail }

def takesArguments : Piece → Bool
  | .directive _ => true
  | _ => false

/-- Uses the format until no arguments are left, at most as often as there are arguments. -/
def repeated (d : Dialect) (pieces : List Piece) : Nat → State → State
  | 0, s => s
  | n + 1, s =>
    if s.arguments.isEmpty || s.ended then s
    else repeated d pieces n (pieces.foldl (step d) s)

/-- Uses a format with arguments, as often as they last. -/
def run (d : Dialect) (format : String) (arguments : List String) : State :=
  let pieces := parse d format.length format.toList
  let first := pieces.foldl (step d) { arguments }
  if pieces.any takesArguments then repeated d pieces arguments.length first else first

end Printf

def printf : Program := fun c =>
  match (if c.arguments.head? = some "--" then c.arguments.tail else c.arguments) with
  | [] => .misuse c "missing operand" 1
  | format :: arguments =>
    let s := Printf.run .tool format arguments
    let pieces := Printf.parse .tool format.length format.toList
    let extra := match arguments with
      | extra :: _ =>
        if pieces.any Printf.takesArguments || s.ended then []
        else [s!"warning: ignoring excess arguments, starting with {Printf.Dialect.quoted extra}"]
      | [] => []
    { exitCode := if s.complaints.isEmpty then 0 else 1
      stdout := s.output
      stderr := (s.complaints ++ extra).flatMap fun t => bytes s!"{c.name}: {t}\n" }

end Testbed.Machine
