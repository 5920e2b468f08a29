import Testbed.Machine.Tool.Options

/-! # Columns

The tools that take columns out of lines, and put lines side by side.
-/

namespace Testbed.Machine

namespace Columns

/-- Places in a line from one to another, counted from one; without a last one it goes to the end. -/
structure Span where
  first : Nat
  last : Option Nat
  deriving DecidableEq, Repr

def Span.contains (s : Span) (n : Nat) : Bool :=
  s.first ≤ n && s.last.all (n ≤ ·)

inductive Flaw where
  | fromOne
  | noEndpoint
  | decreasing
  | twoHyphens
  | noNumber (text : String)
  | tooLarge (text : String)
  deriving DecidableEq, Repr

def Flaw.text (fields : Bool) : Flaw → String
  | fromOne =>
    if fields then "fields are numbered from 1" else "byte/character positions are numbered from 1"
  | noEndpoint => "invalid range with no endpoint: -"
  | decreasing => "invalid decreasing range"
  | twoHyphens => if fields then "invalid field range" else "invalid byte or character range"
  | noNumber text =>
    if fields then s!"invalid field value '{text}'" else s!"invalid byte/character position '{text}'"
  | tooLarge text =>
    if fields then s!"field number '{text}' is too large"
    else s!"byte/character offset '{text}' is too large"

def number? (cs : List Char) : Except Flaw (Option Nat) :=
  if cs.isEmpty then .ok none
  else
    match cs.dropWhile Char.isDigit with
    | [] =>
      let n := ((String.ofList cs).toNat?).getD 0
      if UInt64.size ≤ n + 1 then .error (.tooLarge (String.ofList cs)) else .ok (some n)
    | rest => .error (.noNumber (String.ofList rest))

/-- Reads one element of a list. -/
def span? (cs : List Char) : Except Flaw Span := do
  let before := cs.takeWhile (· ≠ '-')
  let first ← number? before
  match cs.drop before.length with
  | [] =>
    match first with
    | none | some 0 => throw .fromOne
    | some n => return ⟨n, some n⟩
  | _ :: after =>
    if after.contains '-' then throw .twoHyphens
    let last ← number? after
    match first, last with
    | none, none => throw .noEndpoint
    | some 0, _ => throw .fromOne
    | first, none => return ⟨first.getD 1, none⟩
    | first, some last =>
      if last < first.getD 1 then throw .decreasing else return ⟨first.getD 1, some last⟩

/-- The parts of a text between commas, blanks and tabs. -/
def elements (cs : List Char) : List (List Char) :=
  cs.foldr (fun c parts =>
    if c = ',' || c = ' ' || c = '\t' then [] :: parts
    else
      match parts with
      | [] => [[c]]
      | part :: rest => (c :: part) :: rest) [[]]

def spans? (list : String) : Except Flaw (List Span) :=
  (elements list.toList).mapM span?

/-- The spans in order, those that overlap joined. -/
def joined (spans : List Span) : List Span :=
  (spans.mergeSort fun a b => a.first ≤ b.first).foldr (fun s rest =>
    match rest with
    | [] => [s]
    | t :: more =>
      if s.last.all (t.first ≤ ·) then
        let last := match s.last, t.last with
          | some a, some b => some (max a b)
          | _, _ => none
        ⟨s.first, last⟩ :: more
      else s :: rest) []

/-- The parts of a line between the bytes that part it. -/
def parts (delimiter : UInt8) (line : List UInt8) : List (List UInt8) :=
  line.foldr (fun b parts =>
    if b = delimiter then [] :: parts
    else
      match parts with
      | [] => [[b]]
      | part :: rest => (b :: part) :: rest) [[]]

def chosen {α : Type} (complemented : Bool) (spans : List Span) (items : List α) : List (Nat × α) :=
  (items.zipIdx 1).filterMap fun (item, n) =>
    if spans.any (·.contains n) != complemented then some (n, item) else none

/-- The chosen bytes of a line, with a text in front of each that begins a span anew. -/
def cutBytes (complemented : Bool) (spans : List Span) (between : List UInt8)
    (line : List UInt8) : List UInt8 :=
  let starts := fun (n : Nat) =>
    if complemented then !(spans.all fun s => s.last ≠ some (n - 1))
    else (joined spans).any (·.first = n)
  ((chosen complemented spans line).zipIdx).flatMap fun ((n, b), i) =>
    if 0 < i && starts n then between ++ [b] else [b]

def cutFields (g : OptionRule.Given) (spans : List Span) (delimiter : UInt8)
    (between : List UInt8) (line : List UInt8) : List UInt8 :=
  if line.contains delimiter then
    let fields := (chosen (g.has 'C') spans (parts delimiter line)).map (·.2)
    (fields.intersperse between).flatten ++ [0x0a]
  else if g.has 's' then [] else line ++ [0x0a]

def rules : List OptionRule := [
  { letter := 'b', words := ["bytes"], takesArgument := true },
  { letter := 'c', words := ["characters"], takesArgument := true },
  { letter := 'f', words := ["fields"], takesArgument := true },
  { letter := 'd', words := ["delimiter"], takesArgument := true },
  { letter := 'n' }, { letter := 's', words := ["only-delimited"] },
  { letter := 'C', words := ["complement"], short := false },
  { letter := 'O', words := ["output-delimiter"], short := false, takesArgument := true }]

/-- The list that has been given, and whether it is one of fields; or what is wrong. -/
def request? (g : OptionRule.Given) : Except String (List Span × Bool) :=
  let lists := g.options.filter fun (letter, _) => letter = 'b' || letter = 'c' || letter = 'f'
  let wide := g.options.any fun (letter, d) => letter = 'd' && 1 < d.utf8ByteSize
  match lists with
  | [] => .error (if wide then "the delimiter must be a single character"
    else "you must specify a list of bytes, characters, or fields")
  | (letter, list) :: more =>
    let fields := letter = 'f'
    if wide then .error "the delimiter must be a single character"
    else if !more.isEmpty then .error "only one list may be specified"
    else if !fields && g.has 'd' then
      .error "an input delimiter may be specified only when operating on fields"
    else if !fields && g.has 's' then
      .error "suppressing non-delimited lines makes sense\n\tonly when operating on fields"
    else
      match spans? list with
      | .error flaw => .error (flaw.text fields)
      | .ok spans => .ok (spans, fields)

end Columns

open Columns in
def cut : Program :=
  withOptions rules (fun c g =>
    match request? g with
    | .error text => .misuse c text 1
    | .ok (spans, fields) =>
      let delimiter := match g.last? 'd' with
        | none => 0x09
        | some d => (bytes d).head?.getD 0
      let (text, complaints) := c.readJoined g.operands fun operand fault =>
        s!"{operand}: {fault.text}"
      let lines := (byteLines text).map chomp
      /- An empty text between columns is a NUL. -/
      let given := (g.last? 'O').map fun d => if d.isEmpty then [0] else bytes d
      let out := if fields then
          let between := given.getD [delimiter]
          lines.flatMap (cutFields g spans delimiter between)
        else
          let between := given.getD []
          lines.flatMap fun line => cutBytes (g.has 'C') spans between line ++ [0x0a]
      .fromOperands g.operands out complaints 1) 1

namespace Columns

/-- Lines with delimiters between them, which take turns. -/
def pasted (delimiters : List (List UInt8)) (lines : List (List UInt8)) : List UInt8 :=
  ((lines.zipIdx).flatMap fun (line, i) =>
    let between := if delimiters.isEmpty then []
      else delimiters[(i - 1) % delimiters.length]?.getD []
    (if i = 0 then [] else between) ++ line) ++ [0x0a]

/-- The delimiters that an argument lists. -/
def delimiters : List Char → List (List UInt8)
  | [] => []
  | '\\' :: c :: rest =>
    let d : List UInt8 := match c with
      | 'n' => [0x0a]
      | 't' => [0x09]
      | '0' => []
      | c => bytes (String.ofList [c])
    d :: delimiters rest
  | c :: rest => bytes (String.ofList [c]) :: delimiters rest

/-- The lines of each operand; hyphens share the lines of the input, taking turns. -/
def linesOf (c : Call) (operands : List String) : List (List (List UInt8)) :=
  let columns := operands.count "-"
  (operands.zipIdx).map fun (operand, i) =>
    let lines := (byteLines ((c.readOperand operand).toOption.getD [])).map chomp
    if operand = "-" then
      let turn := (operands.take i).count "-"
      (lines.zipIdx).filterMap fun (line, n) => if n % columns = turn then some line else none
    else lines

end Columns

open Columns in
/-- Puts the lines of files side by side, or those of each file one after the other. -/
def paste : Program :=
  withOptions [
    { letter := 'd', words := ["delimiters"], takesArgument := true },
    { letter := 's', words := ["serial"] }] (fun c g =>
    let between := delimiters ((g.last? 'd').getD "\t").toList
    let all := c.readOperands g.operands
    let complaints := all.filterMap fun (operand, r) =>
      match r with
      | .ok _ => none
      | .error fault => some (bytes s!"{c.name}: {operand}: {fault.text}\n")
    if g.has 's' then
      let out := all.flatMap fun (_, r) =>
        match r with
        | .ok text => pasted between ((byteLines text).map chomp)
        | .error _ => []
      .fromOperands g.operands out complaints.flatten 1
    else if complaints.isEmpty then
      let columns := linesOf c (orInput g.operands)
      let count := (columns.map List.length).foldl max 0
      let out := (List.range count).flatMap fun i =>
        pasted between (columns.map fun lines => lines[i]?.getD [])
      .fromOperands g.operands out [] 1
    else .fromOperands g.operands [] (complaints.headD []) 1) 1

end Testbed.Machine
