import Testbed.CommandLine.Numeral
import Testbed.Log
import Testbed.Text.Blank
import Testbed.Text.Regex

/-! # Log filters

A filter is a list of directives parted by commas. A directive sets the level up
to which lines are let through, for the lines whose target begins with a given
text and for the spans that it names; the most specific directive about a line
decides.
-/

namespace Testbed

/-- How much is let through: nothing, or everything up to a level. Tracing lets all through. -/
inductive Verbosity where
  | off
  | upTo (level : Log.Level)
  | trace
  deriving DecidableEq, Repr

namespace Verbosity

def named : List (String × Verbosity) := [
  ("off", .off), ("error", .upTo .error), ("warn", .upTo .warn), ("info", .upTo .info),
  ("debug", .upTo .debug), ("trace", .trace)]

/-- Reads a name in any mixture of cases, or its position in the list of names. -/
def read? (text : String) : Option Verbosity :=
  match CommandLine.longWord? text with
  | some n => named[n]?.map (·.2)
  | none => named.lookup text.toLower

/-- No text at all lets everything through. -/
def readOrTrace? (text : String) : Option Verbosity :=
  if text.isEmpty then some .trace else read? text

def permits (v : Verbosity) (level : Log.Level) : Bool :=
  match v with
  | off => false
  | upTo most => level.ctorIdx ≤ most.ctorIdx
  | trace => true

end Verbosity

namespace LogFilter

/-- A field that a directive asks for, and whether it asks for a value too. -/
structure Field where
  name : String
  hasValue : Bool
  deriving DecidableEq, Repr

structure Directive where
  /-- The beginning of the targets that the directive is about; all if there is none. -/
  target : Option String := none
  /-- The name of the spans that the directive is about. -/
  span : Option String := none
  fields : List Field := []
  verbosity : Verbosity := .trace
  deriving DecidableEq, Repr

end LogFilter

structure LogFilter where
  directives : List LogFilter.Directive
  deriving DecidableEq, Repr

namespace LogFilter

/-! ## Reading a directive -/

/-- A decimal number as it may follow a plus sign: with a point, an exponent, or infinite. -/
def isDecimal (cs : List Char) : Bool :=
  let whole := cs.takeWhile Char.isDigit
  let rest := cs.dropWhile Char.isDigit
  let (places, rest) := match rest with
    | '.' :: rest => (rest.takeWhile Char.isDigit, rest.dropWhile Char.isDigit)
    | rest => ([], rest)
  let exponent := match rest with
    | 'e' :: rest | 'E' :: rest =>
      let digits := match rest with
        | '+' :: rest | '-' :: rest => rest
        | rest => rest
      !digits.isEmpty && digits.all Char.isDigit
    | rest => rest.isEmpty
  ["inf", "infinity", "nan"].contains (String.ofList cs).toLower ||
    !(whole ++ places).isEmpty && exponent

/-- A value is a regular expression or a number. -/
def isValue (cs : List Char) : Bool :=
  Text.Regex.isWellFormed cs || cs.head? = some '+' && isDecimal (cs.drop 1)

/-- Reads what stands between braces: a name, and perhaps a value behind an equals sign. What
stands behind a second equals sign says nothing. -/
def Field.read? (text : String) : Option Field :=
  match text.splitOn "=" with
  | [] => none
  | [name] => if name.isEmpty then none else some ⟨name, false⟩
  | name :: value :: _ => if isValue value.toList then some ⟨name, true⟩ else none

/-- What a directive has been found to be saying so far. Numbers are where a piece begins. -/
inductive Scan where
  | start
  | levelOrTarget
  | span (from_ : Nat)
  | field (from_ : Nat)
  | behindFields
  | behindSpan
  | level (from_ : Nat)
  deriving DecidableEq, Repr

def canBegin (c : Char) : Bool :=
  c = '-' || c = ':' || c = '_' || Text.isAlphanumeric c

/-- The bytes of a text from one position up to another, as characters. -/
def piece (text : List Char) (first last : Nat) : String :=
  String.ofList <| go 0 text
where
  go (i : Nat) : List Char → List Char
    | [] => []
    | c :: rest =>
      if last ≤ i then []
      else if i < first then go (i + c.utf8Size) rest
      else c :: go (i + c.utf8Size) rest

/-- Takes the character at a position. -/
def Scan.step (text : List Char) (i : Nat) (c : Char) :
    Scan × Directive → Option (Scan × Directive)
  | (start, d) =>
    if c = '[' then some (span (i + 1), d)
    else if canBegin c then some (levelOrTarget, d)
    else none
  | (levelOrTarget, d) =>
    if c = '=' then some (level (i + 1), { d with target := some (piece text 0 i) })
    else if c = '[' then some (span (i + 1), { d with target := some (piece text 0 i) })
    else some (levelOrTarget, d)
  | (span first, d) =>
    let name := piece text first i
    if c = ']' then some (behindSpan, { d with span := some name })
    else if c = '\x7b' then
      some (field (i + 1), { d with span := if name.isEmpty then none else some name })
    else some (span first, d)
  | (field first, d) =>
    if c = '\x7d' then
      (Field.read? (piece text first i)).map fun f =>
        (behindFields, { d with fields := d.fields ++ [f] })
    else some (field first, d)
  | (behindFields, d) => if c = ']' then some (behindSpan, d) else none
  | (behindSpan, d) => if c = '=' then some (level (i + 1), d) else none
  | (level first, d) => some (level first, d)

/-- Ends a directive: a text without an equals sign is a level, or else a target. Behind a span the
level may be left out, and then everything is let through. -/
def Scan.finish (text : List Char) : Scan × Directive → Option Directive
  | (levelOrTarget, d) =>
    let whole := String.ofList text
    match Verbosity.read? whole with
    | some v => some { d with verbosity := v }
    | none => some { d with target := some whole }
  | (level first, d) =>
    let rest := String.ofList text |>.utf8ByteSize |> piece text first
    (Verbosity.readOrTrace? rest).map fun v => { d with verbosity := v }
  | (behindSpan, d) => some d
  | _ => none

/-- Takes the characters of a directive one after the other, from a position on. -/
def Scan.run (text : List Char) (i : Nat) (s : Scan × Directive) :
    List Char → Option (Scan × Directive)
  | [] => some s
  | c :: rest => (Scan.step text i c s).bind fun s => Scan.run text (i + c.utf8Size) s rest

/-- Reads one directive. The blanks around it are passed over when positions are counted, and
count when pieces are cut. -/
def directive? (text : String) : Option Directive :=
  let cs := text.toList
  (Scan.run cs 0 (.start, {}) (Text.strip Text.isBlank cs)).bind (Scan.finish cs)

/-! ## Filters -/

/-- Reads a filter; nothing at all lets errors through. -/
def read? (text : String) : Option LogFilter :=
  let parts := (text.splitOn ",").filter (!·.isEmpty)
  if parts.isEmpty then some ⟨[{ verbosity := .upTo .error }]⟩
  else (parts.mapM directive?).map LogFilter.mk

/-- Lines have a text as their only field, and lie outside of all spans. -/
def Directive.isAbout (d : Directive) (target : String) : Bool :=
  d.span.isNone && d.fields.all (· = ⟨"message", false⟩) && d.target.all (target.startsWith ·)

/-- A longer target counts more than fields do. -/
def Directive.isAtMost (d e : Directive) : Bool :=
  let length (d : Directive) := (d.target.map fun target => target.utf8ByteSize + 1).getD 0
  length d < length e || length d = length e && d.fields.length ≤ e.fields.length

/-- Of two directives the more specific one counts, of equal ones the later. -/
def prefer (best : Option Directive) (d : Directive) : Option Directive :=
  match best with
  | none => some d
  | some b => if b.isAtMost d then some d else some b

def permits (f : LogFilter) (line : Log.Line) : Bool :=
  match (f.directives.filter (·.isAbout line.target)).foldl prefer none with
  | none => false
  | some d => d.verbosity.permits line.level

end LogFilter

end Testbed
