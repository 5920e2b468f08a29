import Testbed.Machine.Shell.Grammar
import Testbed.Machine.Shell.Pattern
import Testbed.Machine.Shell.State
import Testbed.Machine.Tool.Printf
import Testbed.Machine.Tool.Test

/-! # Builtins

The commands that the interpreter carries out itself, as far as they run no other
command. What goes wrong in a special builtin ends the script.
-/

namespace Testbed.Machine.Shell

abbrev Builtin : Type :=
  List String → State → State

namespace Builtin

def ok (s : State) : State :=
  s.withStatus 0

/-- Complains about a builtin, and goes on unless it is a special one. -/
def flaw (name : String) (text : String) (s : State) : State :=
  let complaint := s!"{name}: {text}"
  if specialBuiltins.contains name || name = "local" then s.fail complaint
  else (s.complain complaint).withStatus 2

def number? (text : String) : Option Nat :=
  if !text.isEmpty && text.toList.all Char.isDigit then text.toNat? else none

/-! ## Output -/

/-- Always heeds escapes; the only option is to leave out the line feed. -/
def echo : Builtin := fun arguments s =>
  let silent := arguments.head? = some "-n"
  let text := " ".intercalate (if silent then arguments.tail else arguments)
  let (written, ended) := Escape.expand Printf.Dialect.builtin.argumentRules text.toList
  let written := if ended || silent then written else written ++ [0x0a]
  if s.canWrite 1 then ok (s.write 1 written)
  else (s.complain "echo: echo: I/O error").withStatus 1

def printf : Builtin := fun arguments s =>
  match (if arguments.head? = some "--" then arguments.tail else arguments) with
  | [] => flaw "printf" "usage: printf format [arg ...]" s
  | format :: arguments =>
    let done := Printf.run .builtin format arguments
    let s := done.complaints.foldl (fun s text => s.complain s!"printf: {text}") s
    let status := if done.broken then 2 else if done.complaints.isEmpty then 0 else 1
    if s.canWrite 1 || done.output.isEmpty then (s.write 1 done.output).withStatus status
    else (s.complain "printf: printf: I/O error").withStatus 1

def test (name : String) : Builtin := fun arguments s =>
  let outcome := do
    let arguments ← if name = "[" then Condition.inBrackets arguments else pure arguments
    Condition.Builtin.eval s.files arguments
  match outcome with
  | .ok value => s.withStatus (if value then 0 else 1)
  | .error e => flaw name e.builtinText s

/-! ## Control -/

/-- Leaves the script with a given exit code or that of the last command. -/
def exit : Builtin := fun arguments s =>
  match arguments with
  | [] => { s with flow := .exits }
  | code :: _ =>
    match number? code with
    | some n => { s with status := n % 256, flow := .exits }
    | none => flaw "exit" s!"Illegal number: {code}" s

def return_ : Builtin := fun arguments s =>
  match arguments with
  | [] => { s with flow := .returns }
  | code :: _ =>
    match number? code with
    | some n => { s with status := n % 256, flow := .returns }
    | none => flaw "return" s!"Illegal number: {code}" s

/-- Leaves or goes on with a loop, by its number from the inside. -/
def leave (name : String) (flow : Nat → Flow) : Builtin := fun arguments s =>
  match number? (arguments.headD "1") with
  | some (n + 1) =>
    if s.loops = 0 then ok s else { ok s with flow := flow (min (n + 1) s.loops) }
  | _ => flaw name ("Illegal number: " ++ arguments.headD "") s

def shift : Builtin := fun arguments s =>
  match number? (arguments.headD "1") with
  | some n =>
    if s.parameters.length < n then flaw "shift" "can't shift that many" s
    else ok { s with parameters := s.parameters.drop n }
  | none => flaw "shift" ("Illegal number: " ++ arguments.headD "") s

/-! ## Variables -/

/-- A name, and the value that it is to have. -/
def binding (argument : String) : String × Option String :=
  let name := argument.toList.takeWhile (· ≠ '=')
  match argument.toList.drop name.length with
  | [] => (argument, none)
  | _ :: value => (String.ofList name, some (String.ofList value))

/-- Changes the variables that are named, after they have been given their new values. -/
def declare (name : String) (change : Variable → Variable) : Builtin := fun arguments s =>
  arguments.foldl (fun s argument =>
    if s.flow ≠ .next then s
    else
      let (key, value) := binding argument
      if !isName key.toList then flaw name s!"{key}: bad variable name" s
      else if value.isSome && s.isReadOnly key then s.fail s!"{name}: {key}: is read only"
      else
        let s := match value with
          | some value => s.assign key value
          | none => s
        let v := (s.bindings.lookup key).getD { value := none }
        s.put key (change v))
    (ok s)

/-- A text in quotes that can be read back. -/
def quoted (text : String) : String :=
  "'" ++ String.ofList (text.toList.flatMap fun c =>
    if c = '\x27' then "'\"'\"'".toList else [c]) ++ "'"

/-- Lists the variables of a kind in the form in which they are declared. -/
def listing (name : String) (which : Variable → Bool) (s : State) : State :=
  let chosen := (s.bindings.filter fun (_, v) => which v).mergeSort fun a b => a.1 ≤ b.1
  ok <| chosen.foldl (fun s (key, v) =>
    match v.value with
    | some value => s.print s!"{name} {key}={quoted value}\n"
    | none => s.print s!"{name} {key}\n") s

def mark (name : String) (which : Variable → Bool) (change : Variable → Variable) : Builtin :=
  fun arguments s =>
    match arguments.filter (· ≠ "-p") with
    | [] => listing name which s
    | arguments => declare name change arguments s

/-- Variables of a function take the place of others until it is left. -/
def local_ : Builtin := fun arguments s =>
  match s.hidden with
  | [] => flaw "local" "not in a function" s
  | frame :: frames =>
    arguments.foldl (fun s argument =>
      if s.flow ≠ .next then s
      else
        let (key, value) := binding argument
        if !isName key.toList then flaw "local" s!"{key}: bad variable name" s
        else
          let frame := s.hidden.headD frame
          let s := { s with hidden := ((key, s.bindings.lookup key) :: frame) :: frames }
          match value with
          | some value => s.assign key value
          | none => s)
      (ok s)

def unset : Builtin := fun arguments s =>
  let functions := arguments.head? = some "-f"
  let names := if functions || arguments.head? = some "-v" then arguments.tail else arguments
  names.foldl (fun s name =>
    if s.flow ≠ .next then s
    else if functions then { s with functions := s.functions.filter (·.1 ≠ name) }
    else if !isName name.toList then flaw "unset" s!"{name}: bad variable name" s
    else if s.isReadOnly name then flaw "unset" s!"{name}: is read only" s
    else s.remove name)
    (ok s)

/-- Takes one line of input: its bytes, what is left, and whether it ended with a line feed. -/
def inputLine : List UInt8 → List UInt8 × List UInt8 × Bool
  | [] => ([], [], false)
  | 0x0a :: rest => ([], rest, true)
  | b :: rest =>
    let (line, rest, ended) := inputLine rest
    (b :: line, rest, ended)

/-- Takes a line from which a backslash, unless it counts as it is, removes the meaning of the
character behind it. The number bounds the lines that are joined. -/
def readSigns (raw : Bool) : Nat → List UInt8 → List Sign × List UInt8 × Bool
  | 0, input => ([], input, false)
  | n + 1, input =>
    let (line, rest, ended) := inputLine input
    let cs := Text.Utf8.decode (line.filter (· ≠ 0))
    if raw then (cs.map (·, false), rest, ended)
    else
      let (signs, open_) := unescape cs
      if open_ && ended then
        let (more, rest, ended) := readSigns raw n rest
        (signs ++ more, rest, ended)
      else (signs, rest, ended)
where
  /-- Whether the line goes on behind a last backslash is told along. -/
  unescape : List Char → List Sign × Bool
    | [] => ([], false)
    | ['\\'] => ([], true)
    | '\\' :: c :: rest =>
      let (signs, open_) := unescape rest
      ((c, true) :: signs, open_)
    | c :: rest =>
      let (signs, open_) := unescape rest
      ((c, false) :: signs, open_)

/-- Parts a line among so many variables, of which the last one takes the rest. -/
def share (separators : List Char) : Nat → List Sign → List (List Sign)
  | 0, _ => []
  | n + 1, signs =>
    let isBlank := fun ((c, quoted) : Sign) =>
      !quoted && separators.contains c && (c = ' ' || c = '\t' || c = '\n')
    let isSeparator := fun ((c, quoted) : Sign) => !quoted && separators.contains c
    let signs := signs.dropWhile isBlank
    if n = 0 then
      let trimmed := (signs.reverse.dropWhile isBlank).reverse
      /- A single separator that ends the last field is no part of it. -/
      let field := trimmed.takeWhile (!isSeparator ·)
      match trimmed.drop field.length with
      | [_] => [field]
      | _ => [trimmed]
    else
      let field := signs.takeWhile (!isSeparator ·)
      let rest := (signs.drop field.length).dropWhile isBlank
      let rest := match rest with
        | sign :: more => if isSeparator sign then more else sign :: more
        | [] => []
      field :: share separators n rest

/-- Reads a line into variables. -/
def read : Builtin := fun arguments s =>
  let options := arguments.takeWhile fun a => a.toList.head? = some '-' && a.length > 1
  let raw := options.any (·.contains 'r')
  let names := arguments.drop options.length
  let names := if options.getLast? = some "-p" then names.tail else names
  match names.find? fun name => !isName name.toList with
  | some name => flaw "read" s!"{name}: bad variable name" s
  | none =>
    if names.isEmpty then flaw "read" "arg count" s
    else
      let (signs, rest, ended) := readSigns raw (s.input.length + 1) s.input
      let fields := share s.separators names.length signs
      let s := (names.zip fields).foldl
        (fun s (name, field) => s.assign name (String.ofList (field.map (·.1))))
        { s with input := rest }
      s.withStatus (if ended then 0 else 1)

/-! ## Options -/

/-- The options that have a letter. -/
def optionNames : List (String × Char) := [
  ("errexit", 'e'), ("noglob", 'f'), ("ignoreeof", 'I'), ("interactive", 'i'), ("monitor", 'm'),
  ("noexec", 'n'), ("stdin", 's'), ("xtrace", 'x'), ("verbose", 'v'), ("vi", 'V'), ("emacs", 'E'),
  ("noclobber", 'C'), ("allexport", 'a'), ("notify", 'b'), ("nounset", 'u')]

def switch (on : Bool) (letter : Char) (s : State) : State :=
  let others := s.options.filter (· ≠ letter)
  { s with options := if on then letter :: others else others }

/-- Sets options, and parameters if there are any left. The number bounds the steps. -/
def setOptions : Nat → List String → State → State
  | 0, _, s => s
  | _ + 1, [], s => s
  | n + 1, argument :: rest, s =>
    match argument.toList with
    | ['-', '-'] => { s with parameters := rest }
    | [sign, 'o'] =>
      if sign = '-' || sign = '+' then
        match rest with
        | name :: rest =>
          match optionNames.lookup name with
          | some letter => setOptions n rest (switch (sign = '-') letter s)
          | none => s.fail s!"set: Illegal option -o {name}"
        | [] => s
      else { s with parameters := argument :: rest }
    | sign :: first :: letters =>
      if sign = '-' || sign = '+' then
        match (first :: letters).find? fun c => !optionNames.any (·.2 = c) with
        | some c => s.fail s!"set: Illegal option -{c}"
        | none => setOptions n rest ((first :: letters).foldl (fun s c => switch (sign = '-') c s) s)
      else { s with parameters := argument :: rest }
    | _ => { s with parameters := argument :: rest }

def set_ : Builtin := fun arguments s =>
  match arguments with
  | [] =>
    let chosen := (s.bindings.filter fun (_, v) => v.value.isSome).mergeSort fun a b => a.1 ≤ b.1
    ok (chosen.foldl (fun s (key, v) => s.print (key ++ "=" ++ quoted (v.value.getD "") ++ "\n")) s)
  | arguments => setOptions (arguments.length + 1) arguments (ok s)

/-- Looks for one option after the other, each time that it is called. -/
def getopts : Builtin := fun arguments s =>
  match arguments with
  | known :: name :: given =>
    if !isName name.toList then flaw "getopts" s!"{name}: bad variable name" s
    else
      let silent := known.toList.head? = some ':'
      let given := if given.isEmpty then s.parameters else given
      let index := (number? (s.value "OPTIND")).getD 1
      /- The variable already points behind an argument of which only some letters are done. -/
      let index := if s.letters = 0 then index else index - 1
      let rest := given.drop (index - 1)
      let finish := fun (index letters : Nat) (letter argument : String) (s : State) =>
        let s := { s with letters }
        ((s.assign "OPTIND" (toString index)).assign name letter).assign "OPTARG" argument
      match rest.head?.map String.toList with
      | some ('-' :: c :: more) =>
        if s.letters = 0 && (c :: more) = ['-'] then
          (finish (index + 1) 0 "?" "" s).withStatus 1
        else
          let left := (c :: more).drop s.letters
          let letter := left.headD '-'
          let shown := String.ofList [letter]
          let isLast := left.length ≤ 1
          let next := (index + 1, if isLast then 0 else s.letters + 1)
          match known.toList.dropWhile (· ≠ letter) with
          | _ :: ':' :: _ =>
            if !isLast then
              ok (finish (index + 1) 0 shown (String.ofList left.tail) s)
            else
              match rest.tail with
              | argument :: _ => ok (finish (index + 2) 0 shown argument s)
              | [] =>
                if silent then ok (finish (index + 1) 0 ":" shown s)
                else ok ((finish (index + 1) 0 "?" "" s).write 2
                  (bytes s!"No arg for -{shown} option\n"))
          | _ :: _ => ok (finish next.1 next.2 shown "" s)
          | [] =>
            if silent then ok (finish next.1 next.2 "?" shown s)
            else ok ((finish next.1 next.2 "?" "" s).write 2 (bytes s!"Illegal option -{shown}\n"))
      | _ => (finish index 0 "?" "" s).withStatus 1
  | _ => flaw "getopts" "Usage: getopts optstring var [arg...]" s

/-! ## Places -/

def directoryText (place : List String) : String :=
  "/" ++ "/".intercalate place

def cd : Builtin := fun arguments s =>
  let back := arguments.head? = some "-"
  let path := match arguments.filter (fun a => a ≠ "-P" && a ≠ "-L" && a ≠ "--") with
    | [] => s.value "HOME"
    | "-" :: _ => s.value "OLDPWD"
    | path :: _ => path
  if path.isEmpty then ok s
  else if !s.files.isDirectory path then (s.complain s!"cd: can't cd to {path}").withStatus 2
  else
    let place := (s.files.resolve path).toOption.getD []
    let before := directoryText s.files.home
    let s := { s with files := { s.files with home := place } }
    let s := (s.assign "OLDPWD" before).assign "PWD" (directoryText place)
    ok (if back then s.print (directoryText place ++ "\n") else s)

def pwd : Builtin := fun _ s =>
  ok (s.print (directoryText s.files.home ++ "\n"))

/-! ## Signals -/

def signals : List (Nat × String) := [
  (1, "HUP"), (2, "INT"), (3, "QUIT"), (4, "ILL"), (5, "TRAP"), (6, "ABRT"), (7, "BUS"), (8, "FPE"),
  (9, "KILL"), (10, "USR1"), (11, "SEGV"), (12, "USR2"), (13, "PIPE"), (14, "ALRM"), (15, "TERM"),
  (16, "STKFLT"), (17, "CHLD"), (18, "CONT"), (23, "URG"), (24, "XCPU"), (25, "XFSZ"),
  (26, "VTALRM"), (27, "PROF"), (28, "WINCH"), (29, "POLL"), (30, "PWR"), (31, "SYS")]

/-- A signal by its number or its name; zero is none at all. -/
def signal? (text : String) : Option Nat :=
  match number? text with
  | some n => some n
  | none =>
    let name := text.toUpper
    let name := if name.startsWith "SIG" then String.ofList (name.toList.drop 3) else name
    if name = "EXIT" then some 0 else (signals.find? (·.2 = name)).map (·.1)

/-- The signals that nothing happens on, unless something is to be done. -/
def isHarmless (signal : Nat) : Bool :=
  signal = 0 || signal = 17 || signal = 18 || signal = 23 || signal = 28

/-- What is said about a program that a signal has ended. -/
def signalTexts : List (Nat × String) := [
  (1, "Hangup"), (3, "Quit"), (4, "Illegal instruction"), (5, "Trace/breakpoint trap"),
  (6, "Aborted"), (7, "Bus error"), (8, "Floating point exception"), (9, "Killed"),
  (10, "User defined signal 1"), (11, "Segmentation fault"), (12, "User defined signal 2"),
  (14, "Alarm clock"), (15, "Terminated")]

/-- What a call of `kill` asks for: a signal, and the processes that are to get it. -/
def killRequest (arguments : List String) : Except String (Nat × List String) :=
  match arguments with
  | "-s" :: name :: rest =>
    match signal? name with
    | some n => .ok (n, rest)
    | none => .error s!"invalid signal number or name: {name}"
  | first :: rest =>
    match first.toList with
    | '-' :: '-' :: [] => .ok (15, rest)
    | '-' :: name =>
      match signal? (String.ofList name) with
      | some n => .ok (n, rest)
      | none => .error s!"Illegal option -{String.ofList (name.take 1)}"
    | _ => .ok (15, first :: rest)
  | [] => .ok (15, [])

/-- What a signal is called in a trap. -/
def signalName (n : Nat) : String :=
  if n = 0 then "EXIT" else (signals.lookup n).getD (toString n)

def trap : Builtin := fun arguments s =>
  let place (actions : List String) (change : String → State → State) : State :=
    actions.foldl (fun s text =>
      match signal? text with
      | some n => change (signalName n) s
      | none => (s.complain s!"trap: {text}: bad trap").withStatus 1) (ok s)
  let drop := fun (name : String) (s : State) => { s with traps := s.traps.filter (·.1 ≠ name) }
  match (if arguments.head? = some "--" then arguments.tail else arguments) with
  | [] =>
    let order := fun (name : String) => ((signals.find? (·.2 = name)).map (·.1)).getD 0
    let listed := s.traps.mergeSort fun a b => order a.1 ≤ order b.1
    ok (listed.foldl (fun s (name, action) => s.print s!"trap -- {quoted action} {name}\n") s)
  | [name] => place [name] drop
  | action :: names =>
    if action = "-" then place names drop
    else if (number? action).isSome then place (action :: names) drop
    else place names fun name s =>
      let s := drop name s
      { s with traps := (name, action) :: s.traps }

/-! ## The rest -/

def umask : Builtin := fun arguments s =>
  match arguments with
  | [] => ok (s.print (s.mask ++ "\n"))
  | mode :: _ =>
    if mode.toList.all (fun c => '0' ≤ c && c ≤ '7') then
      let digits := String.ofList (List.replicate (4 - mode.length) '0') ++ mode
      ok { s with mask := digits }
    else if mode.toList.all Char.isDigit then flaw "umask" s!"Illegal number: {mode}" s
    else ok s

def wait : Builtin := fun arguments s =>
  match arguments.getLast? with
  | none => ok s
  | some _ => s.withStatus 127

def times : Builtin := fun _ s =>
  ok (s.print "0m0.000000s 0m0.000000s\n0m0.000000s 0m0.000000s\n")

/-- The builtins by their names. -/
def table : List (String × Builtin) := [
  (":", fun _ => ok), ("[", test "["), ("alias", fun _ => ok), ("bg", fun _ => ok),
  ("break", leave "break" .breaks), ("cd", cd), ("chdir", cd),
  ("continue", leave "continue" .continues), ("echo", echo), ("exit", exit),
  ("export", mark "export" Variable.exported fun v => { v with exported := true }),
  ("false", fun _ => (·.withStatus 1)), ("getopts", getopts), ("fg", fun _ => flaw "fg" "No current job"),
  ("jobs", fun _ => ok), ("local", local_), ("printf", printf), ("pwd", pwd),
  ("read", read), ("readonly", mark "readonly" Variable.readOnly fun v => { v with readOnly := true }),
  ("return", return_), ("set", set_), ("shift", shift), ("test", test "test"), ("times", times),
  ("trap", trap), ("true", fun _ => ok), ("ulimit", fun _ => ok), ("umask", umask),
  ("unalias", fun _ => ok), ("unset", unset), ("wait", wait)]

/-- The builtins that run other commands or depend on what they are. -/
def launchers : List String :=
  [".", "command", "eval", "exec", "hash", "kill", "type"]

def isBuiltin (name : String) : Bool :=
  (table.lookup name).isSome || launchers.contains name

end Builtin

end Testbed.Machine.Shell
