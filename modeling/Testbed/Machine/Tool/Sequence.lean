import Testbed.Machine.Tool.Options
import Testbed.Machine.Tool.Printf

/-! # Sequences of numbers

Numbers from a first to a last one by equal steps, in decimal notation with as many
places as the first and the step are written with.
-/

namespace Testbed.Machine

namespace Sequence

/-- A number as it has been written. -/
structure Bound where
  value : Fraction
  /-- The digits behind the point. -/
  places : Nat := 0
  /-- The characters that it takes in decimal notation. -/
  width : Nat := 0
  deriving Repr

inductive Flaw where
  | noNumber (argument : String)
  | notANumber (argument : String)
  | noStep (argument : String)
  | noDirective (format : String)
  | endsInDirective (format : String)
  | unknownDirective (format : String) (c : Char)
  | severalDirectives (format : String)
  | formatAndWidth
  deriving DecidableEq, Repr

def Flaw.text : Flaw → String
  | noNumber argument => s!"invalid floating point argument: '{argument}'"
  | notANumber argument => s!"invalid 'not-a-number' argument: '{argument}'"
  | noStep argument => s!"invalid Zero increment value: '{argument}'"
  | noDirective format => s!"format '{format}' has no % directive"
  | endsInDirective format => s!"format '{format}' ends in %"
  | unknownDirective format c => s!"format '{format}' has unknown %{c} directive"
  | severalDirectives format => s!"format '{format}' has too many % directives"
  | formatAndWidth => "format string may not be specified when printing equal width strings"

/-- Whether the complaint is about how the program has been called. -/
def Flaw.isMisuse : Flaw → Bool
  | noDirective _ | endsInDirective _ | unknownDirective _ _ | severalDirectives _ => false
  | _ => true

/-- The places and the width of a number with an exponent, from those without. -/
def withExponent (hasPoint : Bool) (fraction : Nat) (b : Bound) (exponent : Int) : Bound :=
  if exponent < 0 then
    let mark := if hasPoint then (if fraction = 0 then 1 else 0) else 1
    { b with places := b.places + exponent.natAbs, width := b.width + mark + exponent.natAbs }
  else
    let up := exponent.toNat
    let places := b.places - min b.places up
    let dropped := if hasPoint && places = 0 && fraction ≠ 0 then 1 else 0
    { b with places, width := b.width - dropped + (up - min fraction up) }

/-- Reads a whole number to the base of sixteen. -/
def hex? (cs : List Char) : Option Fraction :=
  let (negative, cs) := match cs with
    | '-' :: cs => (true, cs)
    | cs => (false, cs)
  match cs with
  | '0' :: x :: c :: rest =>
    if x = 'x' || x = 'X' then
      match Escape.digits 16 Escape.hex? (rest.length + 1) 0 (c :: rest) with
      | (n, []) => some { negative, numerator := n }
      | _ => none
    else none
  | _ => none

def bound? (argument : String) : Except Flaw Bound :=
  let cs := argument.toList.dropWhile fun c => c = ' ' || '\t' ≤ c && c ≤ '\r'
  let cs := if cs.head? = some '+' then cs.tail else cs
  match hex? cs with
  | some value => .ok { value }
  | none =>
    match readFraction cs with
    | some (value, []) =>
      let isExponent := fun (c : Char) => c = 'e' || c = 'E'
      let mantissa := cs.takeWhile (!isExponent ·)
      let whole := mantissa.takeWhile (· ≠ '.')
      let hasPoint := whole.length < mantissa.length
      let fraction := mantissa.length - whole.length - 1
      let extra := if (whole.getLast?.any Char.isDigit) then 0 else 1
      let width := if !hasPoint then mantissa.length
        else if fraction = 0 then mantissa.length - 1
        else mantissa.length + extra
      let b : Bound := { value, places := fraction, width }
      match cs.drop mantissa.length with
      | [] => .ok b
      | _ :: digits =>
        let (down, digits) := match digits with
          | '-' :: digits => (true, digits)
          | '+' :: digits => (false, digits)
          | digits => (false, digits)
        let n : Int := ((String.ofList digits).toNat?).getD 0
        .ok (withExponent hasPoint fraction b (if down then -n else n))
    | _ =>
      if (String.ofList (cs.dropWhile (· = '-'))).toLower = "nan" then .error (.notANumber argument)
      else .error (.noNumber argument)

/-- A fraction in units of which one holds so many. -/
def scaled (unit : Nat) (f : Fraction) : Int :=
  let n : Int := f.numerator * (unit / f.denominator)
  if f.negative then -n else n

/-- The numbers, in such units. -/
def values (first step last : Int) : List Int :=
  let span := if 0 < step then last - first else first - last
  if step = 0 || span < 0 then []
  else (List.range (span.toNat / step.natAbs + 1)).map fun (i : Nat) => first + (i : Int) * step

/-- A number in such units with so many places, at least so wide. -/
def written (unit places width : Nat) (n : Int) : String :=
  let digits := ({ numerator := n.natAbs, denominator := unit } : Fraction).fixed places
  let sign := if n < 0 then "-" else ""
  sign ++ String.ofList (List.replicate (width - sign.length - digits.length) '0') ++ digits

/-- The width in which all numbers can be written. -/
def commonWidth (places : Nat) (first last : Bound) : Nat :=
  let room := fun (b : Bound) => b.width + places - b.places
  let firstRoom := room first + (if first.places = 0 && places ≠ 0 then 1 else 0)
  let lastRoom := if last.places ≠ 0 && places = 0 then last.width - last.places - 1
    else room last + (if last.places = 0 && places ≠ 0 then 1 else 0)
  max firstRoom lastRoom

/-- What is behind the first directive of a format, whose flags, width and precision have not been
read. -/
def directive? : List Char → Option (List Char)
  | [] => none
  | '%' :: '%' :: rest => directive? rest
  | '%' :: rest => some rest
  | _ :: rest => directive? rest

/-- A format has one directive, for a number with a fraction. -/
def checkFormat (format : String) : Except Flaw Unit :=
  match directive? format.toList with
  | none => .error (.noDirective format)
  | some rest =>
    let rest := rest.dropWhile fun c => "-+#0 '".toList.contains c
    let rest := rest.dropWhile Char.isDigit
    let rest := match rest with
      | '.' :: rest => rest.dropWhile Char.isDigit
      | rest => rest
    match rest with
    | [] => .error (.endsInDirective format)
    | c :: rest =>
      if !"aefgAEFG".toList.contains c then .error (.unknownDirective format c)
      else
        match directive? rest with
        | none => .ok ()
        | some _ => .error (.severalDirectives format)

/-- A number in a format. -/
def formatted (format : String) (digits : String) : List UInt8 :=
  let marked := format.toList.flatMap fun c => if c = '\\' then [c, c] else [c]
  (printf {
    name := "", arguments := [String.ofList marked, digits]
    files := { entries := [], home := [] } }).stdout

def rules : List OptionRule := [
  { letter := 'f', words := ["format"], takesArgument := true },
  { letter := 's', words := ["separator"], takesArgument := true },
  { letter := 'w', words := ["equal-width"] }]

/-- A number is no option, even if it is negative. -/
def isNegative (argument : String) : Bool :=
  match argument.toList with
  | '-' :: c :: _ => c = '.' || c.isDigit
  | _ => false

/-- The bytes of a sequence. -/
def text (g : OptionRule.Given) (first step last : String) : Except Flaw (List UInt8) := do
  let format := g.last? 'f'
  if format.isSome then checkFormat (format.getD "")
  let a ← bound? first
  let s ← bound? step
  if s.value.numerator = 0 then throw (.noStep step)
  let b ← bound? last
  if format.isSome && g.has 'w' then throw .formatAndWidth
  let unit := max a.value.denominator (max s.value.denominator b.value.denominator)
  let places := max a.places s.places
  let width := if g.has 'w' then commonWidth places a b else 0
  let write := fun (n : Int) => match format with
    | some format => formatted format (written unit (unit.log2) 0 n)
    | none => bytes (written unit places width n)
  let numbers := (values (scaled unit a.value) (scaled unit s.value) (scaled unit b.value)).map write
  return if numbers.isEmpty then []
    else (numbers.intersperse (bytes ((g.last? 's').getD "\n"))).flatten ++ [0x0a]

end Sequence

open Sequence in
def seq : Program := fun c =>
  let options := c.arguments.takeWhile (!isNegative ·)
  match OptionRule.readAll rules true {} options with
  | .error flaw => .misuse c flaw.text 1
  | .ok g =>
    let result : Except Output (Except Sequence.Flaw (List UInt8)) :=
      match g.operands ++ c.arguments.drop options.length with
      | [] => .error (Output.missingOperand c 1)
      | [last] => .ok (text g "1" "1" last)
      | [first, last] => .ok (text g first "1" last)
      | [first, step, last] => .ok (text g first step last)
      | _ :: _ :: _ :: extra :: _ => .error (Output.extraOperand c extra)
    match result with
    | .error output => output
    | .ok (.ok stdout) => { stdout }
    | .ok (.error flaw) =>
      if flaw.isMisuse then .misuse c flaw.text 1 else .complain c flaw.text 1

end Testbed.Machine
