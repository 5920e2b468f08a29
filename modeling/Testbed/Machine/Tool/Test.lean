import Testbed.Machine.Program

/-! # Conditions

Tests of texts, numbers and files, as a tool and as a part of the command
interpreter. The two differ in how they read conditions that do not make sense.
-/

namespace Testbed.Machine

namespace Condition

/-- Why a condition cannot be evaluated. -/
inductive Flaw where
  | behind (argument : String)
  | noBinary (argument : String)
  | noUnary (argument : String)
  | extra (argument : String)
  | noInteger (argument : String)
  | open_
  | misplaced (argument : String)
  | operand (operator : String)
  | noBracket
  deriving DecidableEq, Repr

/-- What the tool says about a flaw. -/
def Flaw.toolText : Flaw → String
  | behind a => s!"missing argument after '{a}'"
  | noBinary a => s!"'{a}': binary operator expected"
  | noUnary a => s!"'{a}': unary operator expected"
  | extra a => s!"extra argument '{a}'"
  | noInteger a => s!"invalid integer '{a}'"
  | open_ => "')' expected"
  | misplaced a => s!"'{a}': unexpected operator"
  | operand a => s!"missing argument after '{a}'"
  | noBracket => "missing ']'"

/-- What the command interpreter says about a flaw. -/
def Flaw.builtinText : Flaw → String
  | behind a | operand a => s!"{a}: argument expected"
  | noBinary a | noUnary a | extra a | misplaced a => s!"{a}: unexpected operator"
  | noInteger a => s!"Illegal number: {a}"
  | open_ => "closing paren expected"
  | noBracket => "missing ]"

/-- A whole number in decimal digits, with a sign and blanks around it. -/
def integer? (text : String) : Option Int :=
  let cs := (text.toList.dropWhile Char.isWhitespace).reverse.dropWhile Char.isWhitespace
  let (negative, digits) := match cs.reverse with
    | '-' :: rest => (true, rest)
    | '+' :: rest => (false, rest)
    | cs => (false, cs)
  (String.ofList digits).toNat?.bind fun n =>
    if digits.all Char.isDigit then some (if negative then -(n : Int) else n) else none

def integer (text : String) : Except Flaw Int :=
  match integer? text with
  | some n => .ok n
  | none => .error (.noInteger text)

/-- Whether a program may be run, and a directory be entered. -/
def isExecutable : FileKind → Bool
  | .directory | .program _ => true
  | _ => false

def isFull : FileKind → Bool
  | .file text => !text.isEmpty
  | .directory | .program _ => true
  | .sink | .full => false

def isRegular : FileKind → Bool
  | .file _ | .program _ => true
  | _ => false

/-- The conditions on one argument. -/
def unary? (operator : String) : Option (FileTree → String → Bool) :=
  let about := fun (p : FileKind → Bool) (t : FileTree) path => (t.find path).toOption.any p
  match operator with
  | "-n" => some fun _ a => !a.isEmpty
  | "-z" => some fun _ a => a.isEmpty
  | "-e" | "-r" | "-w" | "-O" | "-G" => some (about fun _ => true)
  | "-f" => some (about isRegular)
  | "-d" => some (about (· = .directory))
  | "-c" => some (about fun k => k = .sink || k = .full)
  | "-s" => some (about isFull)
  | "-x" => some (about isExecutable)
  | "-b" | "-p" | "-S" | "-h" | "-L" | "-u" | "-g" | "-k" | "-N" | "-t" => some fun _ _ => false
  | _ => none

def isUnary (operator : String) : Bool :=
  (unary? operator).isSome

def unary (files : FileTree) (operator argument : String) : Except Flaw Bool :=
  if operator = "-t" then (integer argument).map fun _ => false
  else
    match unary? operator with
    | some test => .ok (test files argument)
    | none => .error (.noUnary operator)

/-- The names of the conditions on two arguments. -/
def isBinary (operator : String) : Bool :=
  ["=", "!=", "-eq", "-ne", "-lt", "-le", "-gt", "-ge", "-nt", "-ot", "-ef"].contains operator

def numbers (a b : String) (test : Int → Int → Bool) : Except Flaw Bool := do
  return test (← integer a) (← integer b)

def binary (files : FileTree) (operator a b : String) : Except Flaw Bool :=
  let place := fun path => (files.resolve path).toOption.filter fun p => (files.kind? p).isSome
  match operator with
  | "=" | "==" => .ok (a = b)
  | "!=" => .ok (a ≠ b)
  | "<" => .ok (a < b)
  | ">" => .ok (b < a)
  | "-eq" => numbers a b (· = ·)
  | "-ne" => numbers a b (· ≠ ·)
  | "-lt" => numbers a b (· < ·)
  | "-le" => numbers a b (· ≤ ·)
  | "-gt" => numbers a b (· > ·)
  | "-ge" => numbers a b (· ≥ ·)
  | "-ef" => .ok ((place a).isSome && place a = place b)
  | "-nt" => .ok ((place a).isSome && (place b).isNone)
  | _ => .ok ((place a).isNone && (place b).isSome)

abbrev Reader : Type → Type :=
  StateT (List String) (Except Flaw)

def take : Reader Unit :=
  modify List.tail

/-! ## The tool -/

namespace Tool

def isBinary (operator : String) : Bool :=
  operator = "==" || Condition.isBinary operator

/-- A hyphen and one letter. -/
def isSwitch (argument : String) : Bool :=
  argument.length = 2 && argument.toList.head? = some '-'

mutual

/-- Reads a condition of so many arguments. The first number bounds the steps. -/
def readSome (files : FileTree) (last : String) : Nat → Nat → Reader Bool
  | 0, _ => throw (.behind last)
  | n + 1, count => do
    match count, ← get with
    | 1, a :: _ =>
      take
      pure (!a.isEmpty)
    | 2, a :: b :: _ =>
      if a = "!" then
        take
        return !(← readSome files last n 1)
      else if isSwitch a then readTerm files last n
      else throw (.behind b)
    | 3, a :: b :: c :: _ =>
      if isBinary b then readTerm files last n
      else if a = "!" then
        take
        return !(← readSome files last n 2)
      else if a = "(" && c = ")" then
        take
        let value ← readSome files last n 1
        take
        pure value
      else if b = "-a" || b = "-o" then readOr files last n
      else throw (.noBinary b)
    | 4, a :: _ :: _ :: d :: _ =>
      if a = "!" then
        take
        return !(← readSome files last n 3)
      else if a = "(" && d = ")" then
        take
        let value ← readSome files last n 2
        take
        pure value
      else readOr files last n
    | _, _ => readOr files last n

def readTerm (files : FileTree) (last : String) : Nat → Reader Bool
  | 0 => throw (.behind last)
  | n + 1 => do
    match ← get with
    | [] => throw (.behind last)
    | "!" :: rest =>
      if rest.isEmpty then throw (.behind last)
      take
      return !(← readTerm files last n)
    | "(" :: rest =>
      if rest.isEmpty then throw (.behind last)
      take
      let inside := (rest.drop 1).takeWhile (· ≠ ")")
      let count := if 4 ≤ inside.length + 1 then rest.length else inside.length + 1
      let value ← readSome files last n count
      if (← get).head? ≠ some ")" then throw .open_
      take
      pure value
    | a :: rest =>
      match rest with
      | operator :: b :: rest =>
        if isBinary operator then
          set rest
          binary files operator a b
        else if isSwitch a then
          set (b :: rest)
          unary files a operator
        else
          take
          pure (!a.isEmpty)
      | [b] =>
        if isSwitch a then
          if !isUnary a then throw (.noUnary a)
          set ([] : List String)
          unary files a b
        else
          take
          pure (!a.isEmpty)
      | [] =>
        if isSwitch a then throw (.behind a)
        take
        pure (!a.isEmpty)

def readAnd (files : FileTree) (last : String) : Nat → Reader Bool
  | 0 => throw (.behind last)
  | n + 1 => do
    let value ← readTerm files last n
    if (← get).head? = some "-a" then
      take
      let more ← readAnd files last n
      pure (value && more)
    else pure value

def readOr (files : FileTree) (last : String) : Nat → Reader Bool
  | 0 => throw (.behind last)
  | n + 1 => do
    let value ← readAnd files last n
    if (← get).head? = some "-o" then
      take
      let more ← readOr files last n
      pure (value || more)
    else pure value

end

def eval (files : FileTree) (arguments : List String) : Except Flaw Bool := do
  if arguments.isEmpty then return false
  let last := arguments.getLastD ""
  let (value, rest) ←
    (readSome files last (8 * arguments.length + 8) arguments.length).run arguments
  match rest with
  | [] => pure value
  | a :: _ => throw (.extra a)

end Tool

/-! ## The part of the command interpreter -/

namespace Builtin

def isBinary (operator : String) : Bool :=
  operator = "<" || operator = ">" || Condition.isBinary operator

/-- What an argument is taken for, by itself and those behind it. -/
inductive Kind where
  | ending | not | opening | closing | and | or | unary | binary | operand
  deriving DecidableEq, Repr

def kind : List String → Kind
  | [] => .ending
  | a :: rest =>
    if a = "!" then .not
    else if a = "(" then (if rest.isEmpty then .operand else .opening)
    else if a = ")" then .closing
    else if a = "-a" then .and
    else if a = "-o" then .or
    else if isBinary a then .binary
    else if isUnary a then
      match rest with
      | [] => .operand
      | [_] => .unary
      | b :: _ => if isBinary b then .operand else .unary
    else .operand

mutual

/-- Reads a condition and stops at its last argument. The number bounds the steps. -/
def readOr (files : FileTree) : Nat → Kind → Reader Bool
  | 0, _ => throw .open_
  | n + 1, k => do
    let value ← readAnd files n k
    if kind (← get).tail = .or then
      modify (List.drop 2)
      let more ← readOr files n (kind (← get))
      pure (value || more)
    else pure value

def readAnd (files : FileTree) : Nat → Kind → Reader Bool
  | 0, _ => throw .open_
  | n + 1, k => do
    let value ← readNot files n k
    if kind (← get).tail = .and then
      modify (List.drop 2)
      let more ← readAnd files n (kind (← get))
      pure (value && more)
    else pure value

def readNot (files : FileTree) : Nat → Kind → Reader Bool
  | 0, _ => throw .open_
  | n + 1, k => do
    if k = .not then
      let next := kind (← get).tail
      if next ≠ .ending then take
      return !(← readNot files n next)
    else readPrimary files n k

def readPrimary (files : FileTree) : Nat → Kind → Reader Bool
  | 0, _ => throw .open_
  | n + 1, k => do
    match k with
    | .ending => pure false
    | .opening =>
      take
      let next := kind (← get)
      if next = .closing then pure false
      else
        let value ← readOr files n next
        take
        if kind (← get) ≠ .closing then throw .open_
        pure value
    | k =>
      match k, ← get with
      | .unary, a :: b :: rest =>
        set (b :: rest)
        unary files a b
      | _, [a, operator] =>
        if isBinary operator then throw (.operand operator) else pure (!a.isEmpty)
      | _, a :: operator :: b :: rest =>
        if isBinary operator then
          set (b :: rest)
          binary files operator a b
        else pure (!a.isEmpty)
      | _, a :: _ => pure (!a.isEmpty)
      | _, [] => pure false

end

/-- Takes off negations and parentheses that surround a short condition. -/
def evalShort (files : FileTree) : Nat → List String → Except Flaw Bool
  | 0, _ => .ok false
  | n + 1, arguments => do
    let finish (arguments : List String) (k : Kind) : Except Flaw Bool := do
      let (value, rest) ← (readOr files (8 * arguments.length + 8) k).run arguments
      match rest with
      | a :: _ :: _ => throw (.misplaced a)
      | _ => pure value
    match arguments with
    | [] => pure false
    | [_, b, _] =>
      if isBinary b then finish arguments .operand else shorten n finish arguments
    | [_, _, _, _] => shorten n finish arguments
    | arguments => finish arguments (kind arguments)
where
  shorten (n : Nat) (finish : List String → Kind → Except Flaw Bool) (arguments : List String) :
      Except Flaw Bool :=
    if arguments.head? = some "(" && arguments.getLast? = some ")" then
      let inside := arguments.tail.dropLast
      finish inside (kind inside)
    else if arguments.head? = some "!" then (evalShort files n arguments.tail).map (!·)
    else finish arguments (kind arguments)

def eval (files : FileTree) (arguments : List String) : Except Flaw Bool :=
  evalShort files (arguments.length + 1) arguments

end Builtin

/-- The arguments of a condition that ends with a bracket. -/
def inBrackets (arguments : List String) : Except Flaw (List String) :=
  if arguments.getLast? = some "]" then .ok arguments.dropLast else .error .noBracket

end Condition

/-- Answers by its exit code whether a condition holds. -/
def test : Program := fun c =>
  let outcome := do
    let arguments ← if c.name.endsWith "[" then Condition.inBrackets c.arguments else pure c.arguments
    Condition.Tool.eval c.files arguments
  match outcome with
  | .ok value => .answer value
  | .error flaw => .complain c flaw.toolText 2

end Testbed.Machine
