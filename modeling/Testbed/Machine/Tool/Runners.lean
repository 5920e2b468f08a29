import Testbed.Machine.Tool.Options

/-! # Tools that run programs

A program is run with other variables, or with arguments taken from the input.
-/

namespace Testbed.Machine

namespace Runner

/-- Programs by the names that they have in the file tree. -/
abbrev Table : Type :=
  List (String × Program)

/-- Where programs are looked for when there is no search path. -/
def usualDirectories : List String :=
  ["/bin", "/usr/bin"]

/-- Runs a command among the given variables, or tells why it cannot be run. -/
def run (table : Table) (c : Call) (bindings : List (String × String)) (command : String)
    (arguments : List String) : Except Fault Output :=
  let directories := match bindings.lookup "PATH" with
    | some path => pathDirectories path
    | none => usualDirectories
  match c.files.programOf directories command with
  | .error fault => .error fault
  | .ok name =>
    match table.lookup name with
    | none => .error .denied
    | some program => .ok (program { c with name := command, arguments, bindings })

/-- The exit code when a command cannot be run. -/
def faultCode : Fault → Int
  | .notFound => 127
  | _ => 126

/-- Variables with one of them set anew. -/
def set (bindings : List (String × String)) (name value : String) : List (String × String) :=
  if bindings.any (·.1 = name) then
    bindings.map fun (n, v) => if n = name then (n, value) else (n, v)
  else bindings ++ [(name, value)]

/-- Reads leading arguments that give variables values. -/
def assign (bindings : List (String × String)) :
    List String → List (String × String) × List String
  | [] => (bindings, [])
  | argument :: rest =>
    let name := argument.toList.takeWhile (· ≠ '=')
    if name.length < argument.length then
      assign (set bindings (String.ofList name)
        (String.ofList (argument.toList.drop (name.length + 1)))) rest
    else (bindings, argument :: rest)

end Runner

open Runner in
/-- Runs a command with other variables, or lists the variables. -/
def env (table : Runner.Table) : Program := fun c =>
  let rules : List OptionRule := [
    { letter := 'i', words := ["ignore-environment"] },
    { letter := 'u', words := ["unset"], takesArgument := true }]
  match OptionRule.readAll rules true {} c.arguments with
  | .error flaw => .misuse c flaw.text 125
  | .ok g =>
    let (empty, operands) := match g.operands with
      | "-" :: rest => (true, rest)
      | operands => (g.has 'i', operands)
    let dropped := (g.options.filter (·.1 = 'u')).map (·.2)
    let start := if empty then [] else c.bindings.filter fun (name, _) => !dropped.contains name
    match assign start operands with
    | (bindings, []) => .say (String.join (bindings.map fun (name, value) => s!"{name}={value}\n"))
    | (bindings, command :: arguments) =>
      match run table c bindings command arguments with
      | .ok output => output
      | .error fault => .complain c s!"'{command}': {fault.text}" (faultCode fault)

namespace Runner

inductive Quote where
  | none
  | single
  | double
  deriving DecidableEq, Repr

/-- Words between blanks, in which quotes and backslashes take the meaning from blanks; or the
quotes that are not closed. -/
def wordsOf : Quote → Option (List Char) → List Char → Except Quote (List String)
  | .none, word, [] => .ok (word.toList.map fun w => String.ofList w.reverse)
  | q, _, [] => .error q
  | .none, word, '\\' :: c :: rest => wordsOf .none (some (c :: word.getD [])) rest
  | .none, word, '\x27' :: rest => wordsOf .single (some (word.getD [])) rest
  | .none, word, '"' :: rest => wordsOf .double (some (word.getD [])) rest
  | .none, word, c :: rest =>
    if c = ' ' || c = '\t' || c = '\n' then
      (wordsOf .none none rest).map ((word.toList.map fun w => String.ofList w.reverse) ++ ·)
    else wordsOf .none (some (c :: word.getD [])) rest
  | q, word, c :: rest =>
    if c = '\n' then .error q
    else if c = (if q = .single then '\x27' else '"') then wordsOf .none word rest
    else wordsOf q (some (c :: word.getD [])) rest

/-- Groups of at most so many. The first number bounds the steps. -/
def groupsOf {α : Type} (size : Nat) : Nat → List α → List (List α)
  | 0, _ | _ + 1, [] => []
  | n + 1, items => items.take size :: groupsOf size n (items.drop size)

/-- A text in which another one is put in the place of a mark. -/
def fillIn (mark value text : String) : String :=
  if mark.isEmpty then text else value.intercalate (text.splitOn mark)

/-- Runs commands one after the other until one cannot be run. -/
def runAll (table : Table) (c : Call) (commands : List (String × List String)) : Output :=
  let step := fun ((o, stopped) : Output × Bool) ((command, arguments) : String × List String) =>
    if stopped then (o, true)
    else
      match run table { c with input := [], files := o.files.getD c.files } c.bindings command
          arguments with
      | .ok p =>
        let code : Int := if p.exitCode = 0 then o.exitCode
          else if p.exitCode = 255 then 124 else if p.exitCode < 0 then 125 else 123
        ({ o with
            exitCode := code, stdout := o.stdout ++ p.stdout, stderr := o.stderr ++ p.stderr
            files := p.files.orElse fun _ => o.files }, p.exitCode = 255 || p.exitCode < 0)
      | .error fault =>
        ({ o with
            exitCode := faultCode fault
            stderr := o.stderr ++ bytes s!"{c.name}: {command}: {fault.text}\n" }, true)
  (commands.foldl step ({ unread := some [] }, false)).1

end Runner

open Runner in
/-- Runs a command with arguments that are words of the input. -/
def xargs (table : Runner.Table) : Program := fun c =>
  let rules : List OptionRule := [
    { letter := '0', words := ["null"] },
    { letter := 'I', takesArgument := true },
    { letter := 'n', words := ["max-args"], takesArgument := true },
    { letter := 'r', words := ["no-run-if-empty"] }]
  match OptionRule.readAll rules true {} c.arguments with
  | .error flaw => .misuse c flaw.text 1
  | .ok g =>
    let (command, own) := match g.operands with
      | [] => ("echo", [])
      | command :: own => (command, own)
    let text := Text.Utf8.decodeString c.input
    let words := if g.has '0' then .ok ((text.splitOn "\x00").filter (!·.isEmpty))
      else if g.has 'I' then
        .ok (((byteLines c.input).map fun line =>
          String.ofList ((Text.Utf8.decodeString (chomp line)).toList.dropWhile (· = ' '))).filter
            (!·.isEmpty))
      else wordsOf .none none text.toList
    match words with
    | .error q =>
      let quote := if q = .single then "single" else "double"
      .complain c (s!"unmatched {quote} quote; by default quotes are special to xargs unless you " ++
        "use the -0 option") 1
    | .ok words =>
      match g.last? 'I' with
      | some mark =>
        runAll table c (words.map fun w => (fillIn mark w command, own.map (fillIn mark w)))
      | none =>
        let size := ((g.last? 'n').bind String.toNat?).getD words.length
        let groups := if words.isEmpty then (if g.has 'r' then [] else [[]])
          else groupsOf (max size 1) words.length words
        runAll table c (groups.map fun group => (command, own ++ group))

open Runner in
/-- Runs a command as it is, behind so many arguments of its own. -/
def wrapper (own : Nat) (table : Runner.Table) : Program := fun c =>
  match c.arguments.drop own with
  | [] => .missingOperand c 125
  | command :: arguments =>
    match run table c c.bindings command arguments with
    | .ok output => output
    | .error fault => .complain c s!"failed to run command '{command}': {fault.text}" (faultCode fault)

end Testbed.Machine
