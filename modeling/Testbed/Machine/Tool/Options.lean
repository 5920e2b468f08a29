import Testbed.Machine.Program

/-! # Options of tools

Options are letters behind a hyphen or words behind two; some take an argument.
What is no option is an operand, wherever it stands.
-/

namespace Testbed.Machine

/-- An option that a tool knows. -/
structure OptionRule where
  letter : Char
  words : List String := []
  /-- Whether the letter can be given; some options have words alone. -/
  short : Bool := true
  takesArgument : Bool := false
  deriving DecidableEq, Repr

namespace OptionRule

/-- Options that are letters alone. -/
def letters (s : String) : List OptionRule :=
  s.toList.map ({ letter := · })

inductive Flaw where
  | unknownLetter (c : Char)
  | unknownWord (word : String)
  | ambiguous (word : String) (candidates : List String)
  | letterNeedsArgument (c : Char)
  | wordNeedsArgument (word : String)
  | wordTakesNone (word : String)
  deriving DecidableEq, Repr

def Flaw.text : Flaw → String
  | unknownLetter c => s!"invalid option -- '{c}'"
  | unknownWord word => s!"unrecognized option '--{word}'"
  | ambiguous word candidates =>
    let listed := " ".intercalate (candidates.map fun c => s!"'--{c}'")
    s!"option '--{word}' is ambiguous; possibilities: {listed}"
  | letterNeedsArgument c => s!"option requires an argument -- '{c}'"
  | wordNeedsArgument word => s!"option '--{word}' requires an argument"
  | wordTakesNone word => s!"option '--{word}' doesn't allow an argument"

/-- The options that have been given, with their arguments, and the operands. -/
structure Given where
  options : List (Char × String) := []
  operands : List String := []
  deriving DecidableEq, Repr

namespace Given

def has (g : Given) (letter : Char) : Bool :=
  g.options.any (·.1 = letter)

/-- The argument of the last option of a letter. -/
def last? (g : Given) (letter : Char) : Option String :=
  (g.options.reverse.find? (·.1 = letter)).map (·.2)

def add (g : Given) (letter : Char) (argument : String) : Given :=
  { g with options := g.options ++ [(letter, argument)] }

end Given

/-- Reads the letters behind a hyphen; the last one may take the next argument. -/
def readLetters (rules : List OptionRule) (next : Option String) (g : Given) :
    List Char → Except Flaw (Given × Bool)
  | [] => .ok (g, false)
  | c :: rest =>
    match rules.find? fun rule => rule.short && rule.letter = c with
    | none => .error (.unknownLetter c)
    | some rule =>
      if !rule.takesArgument then readLetters rules next (g.add c "") rest
      else if !rest.isEmpty then .ok (g.add c (String.ofList rest), false)
      else
        match next with
        | some argument => .ok (g.add c argument, true)
        | none => .error (.letterNeedsArgument c)

/-- Reads a word behind two hyphens, which may be cut short. Whether the next argument has been
taken is told along. -/
def readWord (rules : List OptionRule) (next : Option String) (g : Given) (text : String) :
    Except Flaw (Given × Bool) :=
  let word := String.ofList (text.toList.takeWhile (· ≠ '='))
  let argument? := if word.length < text.length
    then some (String.ofList (text.toList.drop (word.length + 1))) else none
  let all : List (String × OptionRule) := rules.flatMap fun rule => rule.words.map (·, rule)
  let candidates : List (String × OptionRule) := match all.filter (·.1 = word) with
    | [] => all.filter fun (w, _) => word.toList.isPrefixOf w.toList
    | exact => exact
  match candidates with
  | [] => .error (.unknownWord word)
  | [(word, rule)] =>
    match argument?, rule.takesArgument with
    | some argument, true => .ok (g.add rule.letter argument, false)
    | some _, false => .error (.wordTakesNone word)
    | none, false => .ok (g.add rule.letter "", false)
    | none, true =>
      match next with
      | some argument => .ok (g.add rule.letter argument, true)
      | none => .error (.wordNeedsArgument word)
  | several => .error (.ambiguous word (several.map (·.1)))

/-- Reads arguments. With `inOrder` the first operand ends the options. -/
def readAll (rules : List OptionRule) (inOrder : Bool) (g : Given) : List String → Except Flaw Given
  | [] => .ok g
  | argument :: rest =>
    match argument.toList with
    | ['-', '-'] => .ok { g with operands := g.operands ++ rest }
    | '-' :: '-' :: word =>
      match readWord rules rest.head? g (String.ofList word) with
      | .error flaw => .error flaw
      | .ok (g, true) =>
        match rest with
        | [] => .ok g
        | _ :: rest => readAll rules inOrder g rest
      | .ok (g, false) => readAll rules inOrder g rest
    | '-' :: c :: letters =>
      match readLetters rules rest.head? g (c :: letters) with
      | .error flaw => .error flaw
      | .ok (g, true) =>
        match rest with
        | [] => .ok g
        | _ :: rest => readAll rules inOrder g rest
      | .ok (g, false) => readAll rules inOrder g rest
    | _ =>
      if inOrder then .ok { g with operands := g.operands ++ argument :: rest }
      else readAll rules inOrder { g with operands := g.operands ++ [argument] } rest

end OptionRule

/-- A program whose arguments are read by rules; the code is for when they cannot be. -/
def withOptions (rules : List OptionRule) (body : Call → OptionRule.Given → Output)
    (code : Int) : Program := fun c =>
  match OptionRule.readAll rules false {} c.arguments with
  | .error flaw => .misuse c flaw.text code
  | .ok given => body c given

namespace Output

/-- Complains about an operand that is one too many. -/
def extraOperand (c : Call) (operand : String) : Output :=
  misuse c s!"extra operand '{operand}'" 1

def missingOperand (c : Call) (code : Int) : Output :=
  misuse c "missing operand" code

end Output

/-! ## Inputs -/

/-- What a path holds, as far as it can be read. -/
def Call.readFile (c : Call) (path : String) : Except Fault (List UInt8) :=
  match c.files.find path with
  | .error fault => .error fault
  | .ok .directory => .error .isDirectory
  | .ok (.file text) => .ok (bytes text)
  | .ok _ => .ok []

/-- What an operand stands for, which is the input for a hyphen. -/
def Call.readOperand (c : Call) (operand : String) : Except Fault (List UInt8) :=
  if operand = "-" then .ok c.input else c.readFile operand

/-- The operands, or the input if there are none. -/
def orInput (operands : List String) : List String :=
  if operands.isEmpty then ["-"] else operands

/-- Runs through operands: their contents, or what is said about those that cannot be read. -/
def Call.readOperands (c : Call) (operands : List String) :
    List (String × Except Fault (List UInt8)) :=
  (orInput operands).map fun o => (o, c.readOperand o)

/-- The contents of all operands that can be read, and a complaint for each of the others. -/
def Call.readJoined (c : Call) (operands : List String) (complaint : String → Fault → String) :
    List UInt8 × List UInt8 :=
  let all := c.readOperands operands
  ((all.map fun (_, r) => r.toOption.getD []).flatten,
    all.flatMap fun (operand, r) =>
      match r with
      | .ok _ => []
      | .error fault => bytes s!"{c.name}: {complaint operand fault}\n")

/-- What is left of the input when the operands have been read. -/
def Call.unreadAfter (operands : List String) : Option (List UInt8) :=
  if (orInput operands).contains "-" then some [] else none

/-- One more byte in front of some lines. -/
def consByte (b : UInt8) (lines : List (List UInt8)) : List (List UInt8) :=
  if b = 0x0a then [b] :: lines
  else
    match lines with
    | [] => [[b]]
    | line :: rest => (b :: line) :: rest

/-- The lines of some bytes, each with the line feed that ends it. -/
def byteLines (bs : List UInt8) : List (List UInt8) :=
  bs.foldr consByte []

/-- A line without the line feed that ends it. -/
def chomp (line : List UInt8) : List UInt8 :=
  if line.getLast? = some 0x0a then line.dropLast else line

/-- A line with a line feed at its end. -/
def fed (line : List UInt8) : List UInt8 :=
  chomp line ++ [0x0a]

/-- A number in decimal notation, behind blanks if it is short. -/
def rightAligned (width n : Nat) : String :=
  let digits := toString n
  String.ofList (List.replicate (width - digits.length) ' ') ++ digits

namespace Output

/-- What has been made of the contents of operands, with the complaints about some of them. -/
def fromOperands (operands : List String) (stdout complaints : List UInt8) (code : Int := 1) :
    Output :=
  { exitCode := if complaints.isEmpty then 0 else code
    stdout, stderr := complaints, unread := Call.unreadAfter operands }

end Output

end Testbed.Machine
