import Testbed.CommandLine.Numeral
import Testbed.Machine.Escape
import Testbed.Machine.Shell.Token

/-! # Calculations

Whole numbers of 64 bits, which wrap around, with the operators of the command
interpreter. Variables stand for the numbers that their values spell, and can be
given new ones.
-/

namespace Testbed.Machine.Shell.Arithmetic

inductive Operator where
  | or | and | bitOr | bitXor | bitAnd | equal | unequal | less | lessEqual | greater
  | greaterEqual | shiftLeft | shiftRight | plus | minus | times | divide | remainder
  deriving DecidableEq, Repr

/-- The signs of the operators, and how tightly they bind. -/
def Operator.table : List (Operator × String × Nat) := [
  (or, "||", 1), (and, "&&", 2), (bitOr, "|", 3), (bitXor, "^", 4), (bitAnd, "&", 5),
  (equal, "==", 6), (unequal, "!=", 6), (lessEqual, "<=", 7), (greaterEqual, ">=", 7),
  (less, "<", 7), (greater, ">", 7), (shiftLeft, "<<", 8), (shiftRight, ">>", 8), (plus, "+", 9),
  (minus, "-", 9), (times, "*", 10), (divide, "/", 10), (remainder, "%", 10)]

inductive Expr where
  | number (n : Int)
  | named (name : String)
  | assign (name : String) (operator : Option Operator) (value : Expr)
  | negate (e : Expr)
  | complement (e : Expr)
  | not (e : Expr)
  | binary (operator : Operator) (left right : Expr)
  | choice (test yes no : Expr)
  deriving Repr

inductive Flaw where
  | noPrimary
  | unfinished
  | noColon
  | noParenthesis
  | zeroDivision
  /-- The value of a variable is no number. -/
  | noNumber (text : String)
  deriving DecidableEq, Repr

/-- What is said about a flaw of an expression. -/
def Flaw.message (expression : String) : Flaw → String
  | noPrimary => s!"arithmetic expression: expecting primary: \"{expression}\""
  | unfinished => s!"arithmetic expression: expecting EOF: \"{expression}\""
  | noColon => s!"arithmetic expression: expecting ':': \"{expression}\""
  | noParenthesis => s!"arithmetic expression: expecting ')': \"{expression}\""
  | zeroDivision => s!"arithmetic expression: division by zero: \"{expression}\""
  | noNumber text => s!"Illegal number: {text}"

/-! ## Reading -/

inductive Token where
  | number (n : Int)
  | name (name : String)
  | sign (text : String)
  deriving DecidableEq, Repr

/-- All signs, longer ones before those that they begin with. -/
def signs : List String :=
  ["<<=", ">>=", "&&", "||", "==", "!=", "<=", ">=", "<<", ">>", "+=", "-=", "*=", "/=", "%=", "&=",
    "^=", "|=", "+", "-", "*", "/", "%", "<", ">", "=", "&", "|", "^", "!", "~", "?", ":", "(", ")"]

def largest : Nat :=
  UInt64.size / 2 - 1

/-- Reads digits in the base that their beginning tells; what is too large is the largest. -/
def readNumber (cs : List Char) : Nat × List Char :=
  let decimal? := fun (c : Char) => if c.isDigit then some (c.toNat - '0'.toNat) else none
  let (value, rest) := match cs with
    | '0' :: 'x' :: c :: rest =>
      if (Escape.hex? c).isSome then Escape.digits 16 Escape.hex? (rest.length + 1) 0 (c :: rest)
      else (0, 'x' :: c :: rest)
    | '0' :: rest => Escape.digits 8 Escape.octal? rest.length 0 rest
    | cs => Escape.digits 10 decimal? cs.length 0 cs
  (min value largest, rest)

/-- Reads tokens up to the first sign that there is not. The number bounds the steps. -/
def tokens : Nat → List Char → List Token
  | 0, _ | _ + 1, [] => []
  | n + 1, c :: rest =>
    if c = ' ' || c = '\t' || c = '\n' then tokens n rest
    else if c.isDigit then
      let (value, rest) := readNumber (c :: rest)
      .number value :: tokens n rest
    else if isNameStart c then
      let name := (c :: rest).takeWhile isNameChar
      .name (String.ofList name) :: tokens n ((c :: rest).drop name.length)
    else
      match signs.find? fun s => s.toList.isPrefixOf (c :: rest) with
      | some s => .sign s :: tokens n ((c :: rest).drop s.length)
      | none => [.sign (String.ofList [c])]

abbrev Reader : Type → Type :=
  StateT (List Token) (Except Flaw)

def peek : Reader (Option Token) := do
  pure (← get).head?

def skip : Reader Unit :=
  modify List.tail

def operator? : Option Token → Option (Operator × Nat)
  | some (.sign s) => (Operator.table.find? fun (_, text, _) => text = s).map fun (o, _, n) => (o, n)
  | _ => none

/-- The operator of a sign that gives a new value; none for plain assignment. -/
def assignment? : Option Token → Option (Option Operator)
  | some (.sign "=") => some none
  | some (.sign s) =>
    (Operator.table.find? fun (o, text, _) =>
      s = text ++ "=" && !([.equal, .unequal, .less, .greater] : List Operator).contains o).map fun (o, _) => some o
  | _ => none

mutual

def readPrimary : Nat → Reader Expr
  | 0 => throw .noPrimary
  | n + 1 => do
    match ← peek with
    | some (.number value) =>
      skip
      pure (.number value)
    | some (.name name) =>
      skip
      pure (.named name)
    | some (.sign "(") =>
      skip
      let e ← readAssignment n
      if (← peek) ≠ some (.sign ")") then throw .noParenthesis
      skip
      pure e
    | some (.sign "+") =>
      skip
      readPrimary n
    | some (.sign "-") =>
      skip
      pure (.negate (← readPrimary n))
    | some (.sign "~") =>
      skip
      pure (.complement (← readPrimary n))
    | some (.sign "!") =>
      skip
      pure (.not (← readPrimary n))
    | _ => throw .noPrimary

/-- Reads operators that bind at least as tightly as given, from left to right. -/
def readOperators : Nat → Nat → Expr → Reader Expr
  | 0, _, left => pure left
  | n + 1, least, left => do
    match operator? (← peek) with
    | some (o, strength) =>
      if strength < least then pure left
      else
        skip
        let right ← readOperators n (strength + 1) (← readPrimary n)
        readOperators n least (.binary o left right)
    | none => pure left

def readChoice : Nat → Reader Expr
  | 0 => throw .noPrimary
  | n + 1 => do
    let test ← readOperators n 1 (← readPrimary n)
    if (← peek) = some (.sign "?") then
      skip
      let yes ← readAssignment n
      if (← peek) ≠ some (.sign ":") then throw .noColon
      skip
      pure (.choice test yes (← readChoice n))
    else pure test

def readAssignment : Nat → Reader Expr
  | 0 => throw .noPrimary
  | n + 1 => do
    let ts ← get
    match ts.head?, assignment? ts.tail.head? with
    | some (.name name), some operator =>
      skip
      skip
      pure (.assign name operator (← readAssignment n))
    | _, _ => readChoice n

end

def read (text : List Char) : Except Flaw Expr := do
  let ts := tokens (text.length + 1) text
  let (e, rest) ← (readAssignment (8 * ts.length + 8)).run ts
  if rest.isEmpty then pure e else throw .unfinished

/-! ## Evaluation -/

/-- The number in 64 bits that a number wraps around to. -/
def wrap (n : Int) : Int :=
  n.bmod UInt64.size

/-- The bits of a number in 64 bits. -/
def bits (n : Int) : Nat :=
  (n % UInt64.size).toNat

def truth (b : Bool) : Int :=
  if b then 1 else 0

def Operator.apply (o : Operator) (a b : Int) : Except Flaw Int :=
  match o with
  | or => .ok (truth (a ≠ 0 || b ≠ 0))
  | and => .ok (truth (a ≠ 0 && b ≠ 0))
  | bitOr => .ok (wrap (bits a ||| bits b))
  | bitXor => .ok (wrap (bits a ^^^ bits b))
  | bitAnd => .ok (wrap (bits a &&& bits b))
  | equal => .ok (truth (a = b))
  | unequal => .ok (truth (a ≠ b))
  | less => .ok (truth (a < b))
  | lessEqual => .ok (truth (a ≤ b))
  | greater => .ok (truth (b < a))
  | greaterEqual => .ok (truth (b ≤ a))
  | shiftLeft => .ok (wrap (bits a <<< (bits b % 64)))
  | shiftRight => .ok (a >>> (bits b % 64))
  | plus => .ok (wrap (a + b))
  | minus => .ok (wrap (a - b))
  | times => .ok (wrap (a * b))
  | divide => if b = 0 then .error .zeroDivision else .ok (wrap (a.tdiv b))
  | remainder => if b = 0 then .error .zeroDivision else .ok (a.tmod b)

/-- The number that a text spells, with a sign and blanks around it; nothing spells zero. -/
def numberOf? (text : String) : Option Int :=
  let isSpace := fun (c : Char) => c = ' ' || c = '\t' || c = '\n'
  let cs := text.toList.dropWhile isSpace
  let (negative, digits) := match cs with
    | '-' :: rest => (true, rest)
    | '+' :: rest => (false, rest)
    | cs => (false, cs)
  if cs.isEmpty then some 0
  else if digits.head?.any Char.isDigit then
    let (value, rest) := readNumber digits
    if rest.all isSpace then some (if negative then -value else value) else none
  else none

/-- Evaluates an expression over variables that can be read and given new values. -/
def Expr.eval {σ : Type} (read : String → σ → String) (write : String → Int → σ → σ) :
    Expr → StateT σ (Except Flaw) Int
  | number n => pure n
  | named name => do
    let text := read name (← get)
    match numberOf? text with
    | some n => pure n
    | none => throw (.noNumber text)
  | assign name operator value => do
    let n ← value.eval read write
    let n ← match operator with
      | none => pure n
      | some o =>
        let text := read name (← get)
        match numberOf? text with
        | some m => o.apply m n
        | none => throw (.noNumber text)
    modify (write name n)
    pure n
  | negate e => return wrap (-(← e.eval read write))
  | complement e => return -(← e.eval read write) - 1
  | not e => return truth ((← e.eval read write) = 0)
  | binary o left right => do
    let a ← left.eval read write
    match o with
    | .or => if a ≠ 0 then pure 1 else return truth ((← right.eval read write) ≠ 0)
    | .and => if a = 0 then pure 0 else return truth ((← right.eval read write) ≠ 0)
    | o =>
      let b ← right.eval read write
      o.apply a b
  | choice test yes no => do
    if (← test.eval read write) ≠ 0 then yes.eval read write else no.eval read write

end Testbed.Machine.Shell.Arithmetic
