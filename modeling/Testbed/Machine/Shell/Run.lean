import Testbed.Machine.Shell.Builtin
import Testbed.Machine.Shell.Expansion

/-! # Running scripts

Carries out commands one after the other. Whatever runs takes a bound on its depth
and its repetitions, so that every script comes to an end.
-/

namespace Testbed.Machine.Shell

/-- The tools that scripts can run, by the names of the programs in the file tree. -/
abbrev Tools : Type :=
  List (String × Program)

/-- What the programs are called that interpret scripts. -/
def interpreters : List String :=
  ["bash", "dash", "sh"]

def isInterpreter (name : String) : Bool :=
  interpreters.contains name

/-! ## Finding programs -/

/-- The directories in which programs are looked for. -/
def State.searchPath (s : State) : List String :=
  pathDirectories (s.value "PATH")

/-- The program of a command, which is a path if it contains a slash. -/
def State.program (s : State) (command : String) : Except Fault String :=
  s.files.programOf s.searchPath command

/-- The path under which a program is found by its name. -/
def State.programPath? (s : State) (command : String) : Option String :=
  if command.contains '/' then (if (s.program command).toOption.isSome then some command else none)
  else
    (s.searchPath.map fun directory => s!"{directory}/{command}").find? fun path =>
      match s.files.find path with
      | .ok (.program _) => true
      | _ => false

/-- What is said about a program that cannot be run, and the exit code that it leaves. -/
def programFault : Fault → String × Nat
  | .notFound | .notDirectory => ("not found", 127)
  | .nameTooLong => (Fault.nameTooLong.text, 127)
  | fault => (fault.text, 126)

/-- The variables that programs are handed. -/
def State.exports (s : State) : List (String × String) :=
  s.bindings.filterMap fun (name, v) =>
    if v.exported then v.value.map (name, ·) else none

/-- The variables that every script finds. -/
def ownVariables : List (String × Variable) :=
  [("IFS", " \t\n"), ("OPTIND", "1"), ("PS1", "$ "), ("PS2", "> "), ("PS4", "+ ")].map
    fun (name, value) => (name, { value := some value })

/-! ## What commands are -/

/-- What a name stands for where a command begins. -/
inductive Meaning where
  | keyword
  | special
  | function (body : Command)
  | builtin
  | program (path : String)
  | unknown

def State.meaning (s : State) (name : String) : Meaning :=
  if (Symbol.ofWord? name).isSome then .keyword
  else if specialBuiltins.contains name then .special
  else
    match s.functions.lookup name with
    | some body => .function body
    | none =>
      if Builtin.isBuiltin name then .builtin
      else
        match s.programPath? name with
        | some path => .program path
        | none => .unknown

/-- Describes commands, in a sentence each. -/
def describe (names : List String) (s : State) : State :=
  names.foldl (fun s name =>
    match s.meaning name with
    | .keyword => s.print s!"{name} is a shell keyword\n"
    | .special => s.print s!"{name} is a special shell builtin\n"
    | .function _ => s.print s!"{name} is a shell function\n"
    | .builtin => s.print s!"{name} is a shell builtin\n"
    | .program path => s.print s!"{name} is {path}\n"
    | .unknown => (s.print s!"{name}: not found\n").withStatus 127)
    (s.withStatus 0)

/-- Names commands as they would be run. -/
def locate (names : List String) (s : State) : State :=
  names.foldl (fun s name =>
    match s.meaning name with
    | .program path => s.print s!"{path}\n"
    | .unknown => s.withStatus 127
    | _ => s.print s!"{name}\n")
    (s.withStatus 0)

/-! ## Redirections -/

def faultText (creating : Bool) : Fault → String
  | .notFound | .notDirectory => if creating then "Directory nonexistent" else "No such file"
  | fault => fault.text

/-- Opens a file for output, empty or as it is. -/
def openOutput (stream : Nat) (path : String) (emptied : Bool) (s : State) : Except Fault State :=
  match s.files.resolve path with
  | .error fault => .error fault
  | .ok place =>
    match s.files.kind? place with
    | some .directory => .error .isDirectory
    | some .sink => .ok (s.redirect stream (.file place))
    | some .full => .ok (s.redirect stream .full)
    | kind =>
      if Path.endsInSlash path then .error .isDirectory
      else
        let text := match kind with
          | some (.file text) => if emptied then "" else text
          | _ => ""
        .ok { s.redirect stream (.file place) with files := s.files.put place (.file text) }

def openInput (stream : Nat) (path : String) (s : State) : Except Fault State :=
  match s.files.find path with
  | .error fault => .error fault
  | .ok kind =>
    let content := match kind with
      | .file text => bytes text
      | _ => []
    .ok (if stream = 0 then { s with input := content } else s.close stream)

/-- Applies one redirection; a stream that cannot be opened leaves a complaint and an exit code. -/
def redirect (run : Command → State → State) (n : Nat) (r : Redirection) (s : State) :
    State × Bool :=
  let refuse (creating : Bool) (path : String) (fault : Fault) : State × Bool :=
    let doing := if creating then "create" else "open"
    ((s.complain s!"cannot {doing} {path}: {faultText creating fault}").withStatus 2, false)
  match r with
  | .file stream direction word =>
    let (path, s) := expandText run n word s
    if s.flow ≠ .next then (s, false)
    else
      match direction with
      | .input =>
        match openInput stream path s with
        | .ok s => (s, true)
        | .error fault => refuse false path fault
      | .output =>
        match openOutput stream path true s with
        | .ok s => (s, true)
        | .error fault => refuse true path fault
      | .appended | .both =>
        match openOutput stream path false s with
        | .ok s => (s, true)
        | .error fault => refuse true path fault
  | .copy stream word =>
    let (text, s) := expandText run n word s
    if s.flow ≠ .next then (s, false)
    else if text = "-" then
      (if stream = 0 then { s with input := [] } else s.close stream, true)
    else
      match text.toList with
      | [d] =>
        let source := d.toNat - '0'.toNat
        if !d.isDigit then (s.fail "Syntax error: Bad fd number", false)
        else
          match s.target source with
          | some target => (s.redirect stream target, true)
          | none =>
            if source = 0 then (s, true)
            else ((s.complain s!"{source}: Bad file descriptor").withStatus 2, false)
      | _ => (s.fail "Syntax error: Bad fd number", false)
  | .document stream number =>
    let (text, s) := expandText run n ((s.documents.lookup number).getD []) s
    (if stream = 0 then { s with input := bytes text } else s, s.flow = .next)

def redirectAll (run : Command → State → State) (n : Nat) : List Redirection → State → State × Bool
  | [], s => (s, true)
  | r :: rest, s =>
    match redirect run n r s with
    | (s, true) => redirectAll run n rest s
    | (s, false) => (s, false)

/-- Whether a redirection is about the input. -/
def isInput : Redirection → Bool
  | .file stream .. | .copy stream _ | .document stream _ => stream = 0

/-- Runs something with redirections, which are taken back behind it. -/
def redirected (run : Command → State → State) (n : Nat) (rs : List Redirection)
    (body : State → State) (s : State) : State :=
  match redirectAll run n rs s with
  | (t, true) =>
    let u := body t
    { u with streams := s.streams, input := if rs.any isInput then s.input else u.input }
  | (t, false) => { t with streams := s.streams, input := s.input }

/-! ## Commands -/

/-- Gives variables the values of words, one after the other. -/
def assignAll (run : Command → State → State) (n : Nat) :
    List (String × Word) → State → State
  | [], s => s
  | (name, word) :: rest, s =>
    let (value, s) := expandText run n word s
    if s.flow ≠ .next then s
    else if s.isReadOnly name then s.fail s!"{name}: is read only"
    else assignAll run n rest (s.assign name value)

/-- Writes down a command before it is run, if that is asked for. -/
def trace (assignments : List (String × Word)) (words : List String) (s : State) : State :=
  let given := assignments.map fun (name, _) => s!"{name}=" ++ s.value name
  if s.options.contains 'x' && !(given ++ words).isEmpty then
    let line := " ".intercalate (given ++ words)
    s.write 2 (bytes (s.value "PS4" ++ line ++ "\n"))
  else s

/-- Leaves the script on a failure, if that is asked for and nothing depends on it. -/
def checkFailure (tested : Bool) (s : State) : State :=
  if s.status ≠ 0 && !tested && s.flow = .next && s.options.contains 'e' then
    { s with flow := .exits }
  else s

/-- Ends a pass through a loop: whether there may be another one. -/
def endPass (s : State) : State × Bool :=
  match s.flow with
  | .next => (s, true)
  | .breaks n => ({ s with flow := if n ≤ 1 then .next else .breaks (n - 1) }, false)
  | .continues n =>
    if n ≤ 1 then ({ s with flow := .next }, true) else ({ s with flow := .continues (n - 1) }, false)
  | _ => (s, false)

mutual

/-- Runs a command. With `tested` something depends on whether it succeeds. -/
def run (tools : Tools) : Nat → Bool → Command → State → State
  | 0, _, _, s => { s with flow := .exits, status := 2 }
  | n + 1, tested, c, s =>
    if s.flow ≠ .next then s
    else
      match c with
      | .nothing => s.withStatus 0
      | .simple line assignments words redirections =>
        checkFailure tested
          (runSimple tools n tested assignments words redirections { s with line, substituted := 0 })
      | .pipeline commands => checkFailure tested (runStages tools n commands s.input s)
      | .negated c =>
        let s := run tools n true c s
        if s.flow = .next then s.withStatus (if s.status = 0 then 1 else 0) else s
      | .bothOf a b =>
        let s := run tools n true a s
        if s.status = 0 then run tools n tested b s else s
      | .eitherOf a b =>
        let s := run tools n true a s
        if s.status = 0 then s else run tools n tested b s
      | .sequence a b =>
        let s := run tools n tested a s
        run tools n tested b s
      | .background c =>
        let t := State.apart (run tools n true c) { s with input := [] }
        { t with input := s.input, status := 0 }
      | .subshell c => checkFailure tested (State.apart (runAlone tools n tested c) s)
      | .redirected c redirections =>
        checkFailure tested
          (redirected (run tools n true) n redirections (run tools n tested c) s)
      | .choice test yes no =>
        let s := run tools n true test s
        if s.flow ≠ .next then s
        else if s.status = 0 then run tools n tested yes s
        else run tools n tested no s
      | .loop inverted test body =>
        let t := runLoop tools n tested inverted test body 0 { s with loops := s.loops + 1 }
        { t with loops := s.loops }
      | .forEach name words body =>
        let (values, s) := expandWords (run tools n true) n words s
        let t := runEach tools n tested name body values { s with loops := s.loops + 1, status := 0 }
        { t with loops := s.loops }
      | .selection subject branches =>
        let (text, s) := expandText (run tools n true) n subject s
        runBranches tools n tested text.toList branches (s.withStatus 0)
      | .definition name body =>
        { s with
          functions := (name, body) :: s.functions.filter (·.1 ≠ name)
          status := 0 }

/-- Runs a command as a script of its own, up to what it wants done in the end. -/
def runAlone (tools : Tools) : Nat → Bool → Command → State → State
  | 0, _, _, s => s
  | n + 1, tested, c, s => finish tools n (run tools n tested c s)

/-- Does what is to be done when a script is left. -/
def finish (tools : Tools) : Nat → State → State
  | 0, s => s
  | n + 1, s =>
    match s.traps.lookup "EXIT", s.flow with
    | _, .killed _ => s
    | some action, _ =>
      let t := runText tools n false "" action
        { s with flow := .next, traps := s.traps.filter (·.1 ≠ "EXIT") }
      match t.flow with
      | .next => { t with status := s.status }
      | _ => t
    | none, _ => s

def runLoop (tools : Tools) : Nat → Bool → Bool → Command → Command → Nat → State → State
  | 0, _, _, _, _, _, s => { s with flow := .exits, status := 2 }
  | n + 1, tested, inverted, test, body, status, s =>
    match endPass (run tools n true test s) with
    | (s, false) => s
    | (s, true) =>
      if (s.status = 0) = inverted then s.withStatus status
      else
        match endPass (run tools n tested body s) with
        | (s, true) => runLoop tools n tested inverted test body s.status s
        | (s, false) => s

def runEach (tools : Tools) : Nat → Bool → String → Command → List String → State → State
  | 0, _, _, _, _, s => { s with flow := .exits, status := 2 }
  | _ + 1, _, _, _, [], s => s
  | n + 1, tested, name, body, value :: rest, s =>
    if s.flow ≠ .next then s
    else if s.isReadOnly name then s.fail s!"{name}: is read only"
    else
      match endPass (run tools n tested body (s.assign name value)) with
      | (s, true) => runEach tools n tested name body rest s
      | (s, false) => s

def runBranches (tools : Tools) :
    Nat → Bool → List Char → List (List Word × Command) → State → State
  | 0, _, _, _, s => s
  | _ + 1, _, _, [], s => s
  | n + 1, tested, subject, (patterns, body) :: rest, s =>
    let (found, s) := patterns.foldl (fun (found, s) word =>
      if found || s.flow ≠ .next then (found, s)
      else
        let (signs, s) := expandSigns (run tools n true) n word s
        (Pattern.accepts (Pattern.ofSigns signs) subject, s)) (false, s)
    if s.flow ≠ .next then s
    else if found then run tools n tested body s
    else runBranches tools n tested subject rest s

/-- Runs the commands of a pipeline one after the other, each with what the one before wrote. -/
def runStages (tools : Tools) : Nat → List Command → List UInt8 → State → State
  | 0, _, _, s => s
  | _ + 1, [], _, s => s
  | n + 1, [last], input, s =>
    let t := State.apart (runAlone tools n true last) { s with input }
    { t with input := if input = s.input then t.input else s.input }
  | n + 1, c :: rest, input, s =>
    let (output, t) := s.capture fun s => State.apart (runAlone tools n true c) { s with input }
    runStages tools n rest output { t with input := s.input }

def runSimple (tools : Tools) :
    Nat → Bool → List (String × Word) → List Word → List Redirection → State → State
  | 0, _, _, _, _, s => s
  | n + 1, tested, assignments, words, redirections, s =>
    let within := run tools n true
    let (texts, s) := expandWords within n words s
    if s.flow ≠ .next then s
    else
      match texts with
      | [] =>
        let s := s.withStatus 0
        let t := redirected within n redirections (fun s => s) s
        if t.status ≠ 0 || t.flow ≠ .next then t
        else
          let t := assignAll within n assignments t
          if t.flow = .next then trace assignments [] (t.withStatus t.substituted) else t
      | name :: arguments =>
        let body (s : State) : State :=
          let t := assignAll within n assignments s
          if t.flow ≠ .next then t else runCommand tools n tested name arguments (trace assignments texts t)
        if specialBuiltins.contains name then
          match redirectAll within n redirections s with
          | (t, false) =>
            { t with streams := s.streams, input := s.input, flow := .exits }
          | (t, true) =>
            let u := body t
            if name = "exec" && u.flow = .next then u
            else
              { u with
                streams := s.streams
                input := if redirections.any isInput then s.input else u.input }
        else
          let old := assignments.map fun (key, _) => (key, s.bindings.lookup key)
          let exported (s : State) : State :=
            assignments.foldl (fun s (key, _) =>
              match s.bindings.lookup key with
              | some v => s.put key { v with exported := true }
              | none => s) s
          let t := redirected within n redirections
            (fun s =>
              let t := assignAll within n assignments s
              if t.flow ≠ .next then t
              else runCommand tools n tested name arguments (trace assignments texts (exported t))) s
          if name = "read" || name = "local" then
            let kept := old.filter fun (key, _) => !arguments.contains key
            kept.foldl (fun s (key, v) => s.restore key v) t
          else old.foldl (fun s (key, v) => s.restore key v) t

/-- Runs what a name stands for. -/
def runCommand (tools : Tools) : Nat → Bool → String → List String → State → State
  | 0, _, _, _, s => s
  | n + 1, tested, name, arguments, s =>
    match (if specialBuiltins.contains name then none else s.functions.lookup name) with
    | some body =>
      let t := run tools n tested body
        { s with parameters := arguments, hidden := [] :: s.hidden, loops := 0 }
      let t := (t.hidden.headD []).foldl (fun s (key, v) => s.restore key v) t
      { t with
        parameters := s.parameters
        hidden := s.hidden
        loops := s.loops
        flow := match t.flow with
          | .returns => .next
          | flow => flow }
    | none => runBuiltin tools n tested name arguments s

def runBuiltin (tools : Tools) : Nat → Bool → String → List String → State → State
  | 0, _, _, _, s => s
  | n + 1, tested, name, arguments, s =>
    match name with
    | "eval" =>
      if arguments.isEmpty then s.withStatus 0
      else runText tools n tested "eval: " (" ".intercalate arguments) s
    | "." => runFile tools n tested arguments s
    | "exec" =>
      match arguments with
      | [] => s.withStatus 0
      | command :: arguments =>
        match s.program command with
        | .error fault =>
          let (text, status) := programFault fault
          { s.complain s!"exec: {command}: {text}" with status, flow := .exits }
        | .ok _ => { runProgram tools n command arguments s with flow := .exits }
    | "command" =>
      match arguments with
      | "-v" :: names => locate (names.take 1) s
      | "-V" :: names => describe (names.take 1) s
      | "-p" :: command :: arguments | "--" :: command :: arguments
      | command :: arguments =>
        let t := runBuiltin tools n tested command arguments s
        /- A special builtin that fails here does not end the script. -/
        if command ≠ "exit" && command ≠ "return" && t.flow = .exits && t.status = 2 then
          { t with flow := .next }
        else t
      | [] => s.withStatus 0
    | "type" => describe arguments s
    | "hash" =>
      arguments.foldl (fun s name =>
        match s.meaning name with
        | .unknown => (s.complain s!"hash: {name}: not found").withStatus 1
        | _ => s) (s.withStatus 0)
    | "kill" => runKill tools n arguments s
    | name =>
      match Builtin.table.lookup name with
      | some builtin => builtin arguments s
      | none => runProgram tools n name arguments s

/-- Sends a signal, which ends the interpreter unless something else is to be done. -/
def runKill (tools : Tools) : Nat → List String → State → State
  | 0, _, s => s
  | n + 1, arguments, s =>
    match Builtin.killRequest arguments with
    | .error text => (s.complain s!"kill: {text}").withStatus 2
    | .ok (_, []) =>
      (s.complain ("kill: Usage: kill [-s sigspec | -signum | -sigspec] [pid | job]... or\n" ++
        "kill -l [exitstatus]")).withStatus 2
    | .ok (signal, targets) =>
      match targets.find? fun t => !((Builtin.number? t).isSome || t.toList.head? = some '-') with
      | some t => (s.complain s!"kill: Illegal number: {t}").withStatus 2
      | none =>
        if targets.any (· = toString State.ownProcess) then
          match s.traps.lookup (Builtin.signalName signal) with
          | some action =>
            if signal = 0 then s.withStatus 0
            else { runText tools n false "" action (s.withStatus 0) with status := 0 }
          | none =>
            if Builtin.isHarmless signal then s.withStatus 0 else { s with flow := .killed signal }
        else (s.complain "kill: No such process\n").withStatus 1

/-- Runs the script in a file, which is looked for like a program. -/
def runFile (tools : Tools) : Nat → Bool → List String → State → State
  | 0, _, _, s => s
  | n + 1, tested, arguments, s =>
    match arguments with
    | [] => s.withStatus 0
    | path :: _ =>
      let paths := if path.contains '/' then [path] else s.searchPath.map (s!"{·}/{path}")
      match paths.find? fun p => (s.files.read? p).isSome with
      | some found =>
        let t := runText tools n tested "" ((s.files.read? found).getD "") s
        { t with flow := if t.flow = .returns then .next else t.flow }
      | none =>
        if path.contains '/' then s.fail s!".: cannot open {path}: No such file"
        else s.fail s!".: {path}: not found"

/-- Runs a program of the machine, which may be an interpreter again. -/
def runProgram (tools : Tools) : Nat → String → List String → State → State
  | 0, _, _, s => s
  | n + 1, name, arguments, s =>
    match s.program name with
    | .error fault =>
      /- Without a name the search ends in a directory. -/
      let (text, status) := if name.isEmpty then (Fault.denied.text, 127) else programFault fault
      (s.complain s!"{name}: {text}").withStatus status
    | .ok program =>
      let c : Call :=
        { name, arguments, input := s.input, files := s.files, bindings := s.exports }
      let o := if isInterpreter program then interpret tools n c
        else
          match tools.lookup program with
          | some tool => tool c
          | none => { exitCode := 126 }
      let t := s.take o
      if t.flow = .next && o.exitCode < 0 && o.exitCode ≠ -2 && o.exitCode ≠ -13 then
        t.write 2 (bytes ((Builtin.signalTexts.lookup o.exitCode.natAbs).getD "" ++ "\n"))
      else t

/-- Runs a script, line by line as it is read. -/
def runText (tools : Tools) : Nat → Bool → String → String → State → State
  | 0, _, _, _, s => s
  | n + 1, tested, label, text, s =>
    runLines tools n tested label { rest := text.toList, documents := s.documents } (s.withStatus 0) s.status

def runLines (tools : Tools) : Nat → Bool → String → Source → State → Nat → State
  | 0, _, _, _, s, _ => s
  | n + 1, tested, label, source, s, before =>
    match readLine.run source with
    | .error e =>
      { ({ s with line := e.line } : State).fail s!"{label}Syntax error: {e.flaw.text}" with
        line := s.line }
    | .ok (none, _) => s
    | .ok (some c, source) =>
      let s := { s with documents := source.documents }
      match c with
      | .nothing => runLines tools n tested label source s before
      | c =>
        let s := run tools n tested c (s.withStatus before)
        if s.flow = .next then runLines tools n tested label source s s.status else s

/-- Interprets a script: an argument, a file or the input. -/
def interpret (tools : Tools) : Nat → Program
  | 0, _ => {}
  | n + 1, c =>
    let start : State := {
      name := c.name
      bindings := ownVariables ++
        c.bindings.map fun (name, value) => (name, { value := some value, exported := true })
      files := c.files
      input := c.input }
    let complaint (text : String) (code : Int) : Output :=
      { exitCode := code, stderr := bytes s!"{c.name}: 0: {text}\n" }
    let flags := c.arguments.takeWhile fun a => 1 < a.length && a.toList.head? = some '-' && a ≠ "--"
    let rest := c.arguments.drop flags.length
    let rest := if rest.head? = some "--" then rest.tail else rest
    let letters := flags.flatMap fun a => a.toList.drop 1
    let unknown := letters.find? fun l => l ≠ 'c' && !Builtin.optionNames.any (·.2 = l)
    let start := (letters.filter (· ≠ 'c')).foldl (fun s l => Builtin.switch true l s) start
    let go (script : String) (s : State) : Output :=
      let t := finish tools n (runText tools n false "" script s)
      { exitCode := match t.flow with
          | .killed signal => -signal
          | _ => t.status
        stdout := t.collected 0
        stderr := t.collected 1
        unread := some t.input
        files := some { t.files with home := c.files.home } }
    match unknown with
    | some l => complaint s!"Illegal option -{l}" 2
    | none =>
      if letters.contains 'c' then
        match rest with
        | [] => complaint "-c requires an argument" 2
        | script :: rest =>
          go script { start with name := rest.headD c.name, parameters := rest.tail }
      else
        match (if letters.contains 's' then [] else rest) with
        | path :: parameters =>
          match c.files.read? path with
          | some script => go script { start with name := path, parameters }
          | none => complaint s!"cannot open {path}: No such file" 2
        | [] =>
          let script := Text.Utf8.decodeString c.input
          go script { start with input := [], parameters := rest }

end

end Testbed.Machine.Shell
