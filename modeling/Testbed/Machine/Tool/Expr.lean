import Testbed.Machine.Tool.LinePattern
import Testbed.Machine.Tool.Options

/-! # Expressions on arguments

Each argument is a value or an operator. Operators of six ranks bind more and more
tightly; a value is a text, and a number if it looks like one.
-/

namespace Testbed.Machine

namespace Expr

inductive Flaw where
  | missing (after : String)
  | unexpected (argument : String)
  | unexpectedBracket
  | openBracket (after : String)
  | noBracket (argument : String)
  | noInteger
  | divisionByZero
  | pattern (flaw : LinePattern.Flaw)
  deriving DecidableEq, Repr

def Flaw.text : Flaw → String
  | missing after => s!"syntax error: missing argument after '{after}'"
  | unexpected argument => s!"syntax error: unexpected argument '{argument}'"
  | unexpectedBracket => "syntax error: unexpected ')'"
  | openBracket after => s!"syntax error: expecting ')' after '{after}'"
  | noBracket argument => s!"syntax error: expecting ')' instead of '{argument}'"
  | noInteger => "non-integer argument"
  | divisionByZero => "division by zero"
  | pattern flaw => flaw.text

/-- The arguments that are left, and the last one that has been read. -/
structure Arguments where
  rest : List String
  last : String := ""
  deriving DecidableEq, Repr

/-- Digits, perhaps with a minus in front. -/
def integer? (s : String) : Option Int :=
  match s.toList with
  | '-' :: c :: rest =>
    if (c :: rest).all Char.isDigit then ((String.ofList (c :: rest)).toNat?).map (-·) else none
  | c :: rest => if (c :: rest).all Char.isDigit then (s.toNat?).map (↑·) else none
  | [] => none

/-- The empty text, and zero, are no. -/
def isNo (s : String) : Bool :=
  s.isEmpty || integer? s = some 0

def truth (b : Bool) : String :=
  if b then "1" else "0"

/-! ## Operators -/

/-- Compares numbers if both sides are numbers, and texts otherwise. -/
def compare (operator left right : String) : String :=
  let order := match integer? left, integer? right with
    | some a, some b => Ord.compare a b
    | _, _ => Ord.compare left right
  truth <| match operator with
    | "<" => order.isLT
    | "<=" => order.isLE
    | "=" | "==" => order.isEq
    | "!=" => !order.isEq
    | ">=" => order.isGE
    | _ => order.isGT

def calculate (operator left right : String) : Except Flaw String :=
  match integer? left, integer? right with
  | some a, some b =>
    match operator with
    | "+" => .ok (toString (a + b))
    | "-" => .ok (toString (a - b))
    | "*" => .ok (toString (a * b))
    | "/" => if b = 0 then .error .divisionByZero else .ok (toString (a.tdiv b))
    | _ => if b = 0 then .error .divisionByZero else .ok (toString (a.tmod b))
  | _, _ => .error .noInteger

/-- What the first group of a pattern matches at the start of a text, or how much the whole pattern
matches if it has no groups. A range from a higher to a lower character matches nothing. -/
def matchStart (text pattern : String) : Except Flaw String :=
  match LinePattern.parse false pattern with
  | .error .rangeEnd => .ok "0"
  | .error flaw => .error (.pattern flaw)
  | .ok p =>
    let found := LinePattern.matchAt false p { rest := text.toList }
    if p.groupCount = 0 then
      .ok (toString ((found.map fun q => (String.ofList q.before).utf8ByteSize).getD 0))
    else .ok (String.ofList ((found.bind fun q => q.groups.lookup 1).getD []))

/-- The operators from the loosest rank to the tightest. -/
def ranks : List (List String) := [
  ["|"], ["&"], ["<", "<=", "=", "==", "!=", ">=", ">"], ["+", "-"], ["*", "/", "%"], [":"]]

/-- Joins two values. Without `wanted` only the form of the expression counts. -/
def join (wanted : Bool) (operator left right : String) : Except Flaw String :=
  match operator with
  | "|" => .ok (if !isNo left then left else if isNo right then "0" else right)
  | "&" => .ok (if isNo left || isNo right then "0" else left)
  | ":" => if wanted then matchStart left right else .ok left
  | operator =>
    if ["+", "-", "*", "/", "%"].contains operator then
      if wanted then calculate operator left right else .ok left
    else .ok (compare operator left right)

/-- Whether the right side of an operator is wanted. -/
def needsRight (operator left : String) : Bool :=
  match operator with
  | "|" => isNo left
  | "&" => !isNo left
  | _ => true

/-! ## Functions -/

/-- The functions by name, with the number of their arguments. -/
def functions : List (String × Nat) := [("length", 1), ("match", 2), ("index", 2), ("substr", 3)]

def index (text set : String) : Nat :=
  match text.toList.findIdx? set.toList.contains with
  | some i => i + 1
  | none => 0

def substr (text start count : String) : String :=
  match integer? start, integer? count with
  | some start, some count =>
    if start ≤ 0 || count ≤ 0 then ""
    else String.ofList ((text.toList.drop (start.toNat - 1)).take count.toNat)
  | _, _ => ""

def apply (wanted : Bool) : String → List String → Except Flaw String
  | "length", [text] => .ok (toString text.utf8ByteSize)
  | "index", [text, set] => .ok (toString (index text set))
  | "substr", [text, start, count] => .ok (substr text start count)
  | _, [text, pattern] => if wanted then matchStart text pattern else .ok text
  | _, _ => .ok ""

/-! ## Reading -/

mutual

/-- Reads an expression of the given rank. The first number bounds the steps. -/
def read : Nat → Nat → Bool → Arguments → Except Flaw (String × Arguments)
  | 0, _, _, a => .error (.missing a.last)
  | n + 1, rank, wanted, a =>
    match ranks[rank]? with
    | none => readFunction n wanted a
    | some operators =>
      match read n (rank + 1) wanted a with
      | .error flaw => .error flaw
      | .ok (left, a) => readMore n rank operators wanted left a

/-- Reads on as long as operators of a rank follow. -/
def readMore : Nat → Nat → List String → Bool → String → Arguments →
    Except Flaw (String × Arguments)
  | 0, _, _, _, _, a => .error (.missing a.last)
  | n + 1, rank, operators, wanted, left, a =>
    match a.rest with
    | operator :: rest =>
      if operators.contains operator then
        match read n (rank + 1) (wanted && needsRight operator left) ⟨rest, operator⟩ with
        | .error flaw => .error flaw
        | .ok (right, a) =>
          match join wanted operator left right with
          | .error flaw => .error flaw
          | .ok value => readMore n rank operators wanted value a
      else .ok (left, a)
    | [] => .ok (left, a)

/-- Reads a function with its arguments, or a value. A plus makes a value of what follows it. -/
def readFunction : Nat → Bool → Arguments → Except Flaw (String × Arguments)
  | 0, _, a => .error (.missing a.last)
  | n + 1, wanted, a =>
    match a.rest with
    | [] => .error (.missing a.last)
    | ["+"] => .error (.missing "+")
    | "+" :: value :: rest => .ok (value, ⟨rest, value⟩)
    | name :: rest =>
      match functions.lookup name with
      | some count =>
        match readArguments n count wanted [] ⟨rest, name⟩ with
        | .error flaw => .error flaw
        | .ok (values, a) => (apply wanted name values).map (·, a)
      | none => readValue n wanted name ⟨rest, name⟩

def readArguments : Nat → Nat → Bool → List String → Arguments →
    Except Flaw (List String × Arguments)
  | 0, _, _, _, a => .error (.missing a.last)
  | _ + 1, 0, _, values, a => .ok (values, a)
  | n + 1, count + 1, wanted, values, a =>
    match readFunction n wanted a with
    | .error flaw => .error flaw
    | .ok (value, a) => readArguments n count wanted (values ++ [value]) a

def readValue : Nat → Bool → String → Arguments → Except Flaw (String × Arguments)
  | 0, _, _, a => .error (.missing a.last)
  | n + 1, wanted, name, a =>
    if name = "(" then
      match read n 0 wanted a with
      | .error flaw => .error flaw
      | .ok (value, a) =>
        match a.rest with
        | ")" :: rest => .ok (value, ⟨rest, ")"⟩)
        | other :: _ => .error (.noBracket other)
        | [] => .error (.openBracket a.last)
    else if name = ")" then .error .unexpectedBracket
    else .ok (name, a)

end

/-- The value of an expression that uses up all arguments. -/
def value (arguments : List String) : Except Flaw String :=
  match read (16 * arguments.length + 16) 0 true { rest := arguments } with
  | .error flaw => .error flaw
  | .ok (value, { rest := [], .. }) => .ok value
  | .ok (_, { rest := extra :: _, .. }) => .error (.unexpected extra)

end Expr

/-- Writes the value of an expression. -/
def expr : Program := fun c =>
  let arguments := if c.arguments.head? = some "--" then c.arguments.tail else c.arguments
  if arguments.isEmpty then .missingOperand c 2
  else
    match Expr.value arguments with
    | .error flaw => .complain c flaw.text 2
    | .ok value => { exitCode := if Expr.isNo value then 1 else 0, stdout := bytes (value ++ "\n") }

end Testbed.Machine
