import Testbed.Machine.Tool.Options

/-! # Names

The tools that tell the name of the system, and take paths apart.
-/

namespace Testbed.Machine

def unameRules : List OptionRule := [
  { letter := 'a', words := ["all"] }, { letter := 's', words := ["kernel-name", "sysname"] },
  { letter := 'n', words := ["nodename"] }, { letter := 'r', words := ["kernel-release", "release"] },
  { letter := 'v', words := ["kernel-version"] }, { letter := 'm', words := ["machine"] },
  { letter := 'p', words := ["processor"] }, { letter := 'i', words := ["hardware-platform"] },
  { letter := 'o', words := ["operating-system"] }]

/-- What the system is called, in order, by the letters that ask for it. -/
def systemNames : List (Char × String) := [
  ('s', "Linux"), ('n', "localhost"), ('r', "6.1.0"), ('v', "#1 SMP"), ('m', "x86_64"),
  ('p', "unknown"), ('i', "unknown"), ('o', "GNU/Linux")]

def uname : Program :=
  withOptions unameRules (fun c g =>
    match g.operands with
    | operand :: _ => .extraOperand c operand
    | [] =>
      let wanted := fun (letter : Char) =>
        if g.options.isEmpty then letter = 's'
        else g.has letter || g.has 'a' && letter ≠ 'p' && letter ≠ 'i'
      let names := (systemNames.filter fun (letter, _) => wanted letter).map (·.2)
      .say (" ".intercalate names ++ "\n")) 1

/-- Whoever runs programs is the user with all rights. -/
def whoami : Program := fun c =>
  match c.arguments with
  | [] => .say "root\n"
  | operand :: _ => .extraOperand c operand

def id : Program :=
  withOptions [
    { letter := 'u', words := ["user"] }, { letter := 'g', words := ["group"] },
    { letter := 'G', words := ["groups"] }, { letter := 'n', words := ["name"] },
    { letter := 'r', words := ["real"] }] (fun c g =>
    let one := g.has 'u' || g.has 'g' || g.has 'G'
    match g.operands with
    | other :: _ => if other = "root" then .say (text one (g.has 'n')) else
      .complain c s!"'{other}': no such user" 1
    | [] =>
      if g.has 'n' && !one then
        .complain c "printing only names or real IDs requires -u, -g, or -G" 1
      else .say (text one (g.has 'n'))) 1
where
  /-- The user and its groups, by number or by name. -/
  text (one named : Bool) : String :=
    if !one then "uid=0(root) gid=0(root) groups=0(root)\n" else if named then "root\n" else "0\n"

/-- The paths under which programs are found. -/
def which : Program := fun c =>
  let directories := pathDirectories ((c.bindings.lookup "PATH").getD "")
  let isProgram := fun (path : String) => (c.files.programAt path).toOption.isSome
  let found := c.arguments.map fun name =>
    let paths := if name.contains '/' then [name] else directories.map (s!"{·}/{name}")
    paths.find? isProgram
  { exitCode := if !found.isEmpty && found.all Option.isSome then 0 else 1
    stdout := bytes (String.join (found.map fun path => (path.map (· ++ "\n")).getD "")) }

/-! ## Paths -/

def dropSlashes (cs : List Char) : List Char :=
  (cs.reverse.dropWhile (· = '/')).reverse

/-- The last name in a path; a path of slashes alone is the root. -/
def lastName (path : String) : String :=
  let cs := dropSlashes path.toList
  if cs.isEmpty then (if path.isEmpty then "" else "/")
  else String.ofList (cs.reverse.takeWhile (· ≠ '/')).reverse

/-- A path up to its last name. -/
def directoryName (path : String) : String :=
  let cs := dropSlashes path.toList
  if cs.isEmpty then (if path.isEmpty then "." else "/")
  else
    let above := (cs.reverse.dropWhile (· ≠ '/')).reverse
    let kept := dropSlashes above
    if above.isEmpty then "." else if kept.isEmpty then "/" else String.ofList kept

/-- A name without an ending, unless it consists of it. -/
def withoutEnding (name ending : String) : String :=
  if name ≠ ending && ending.toList.reverse.isPrefixOf name.toList.reverse then
    String.ofList (name.toList.take (name.length - ending.length))
  else name

def endOf (g : OptionRule.Given) : String :=
  if g.has 'z' then "\x00" else "\n"

def basename : Program :=
  withOptions [
    { letter := 'a', words := ["multiple"] },
    { letter := 's', words := ["suffix"], takesArgument := true },
    { letter := 'z', words := ["zero"] }] (fun c g =>
    let line := fun (ending path : String) =>
      let name := lastName path
      (if ending.isEmpty then name else withoutEnding name ending) ++ endOf g
    match g.operands with
    | [] => .missingOperand c 1
    | paths =>
      if g.has 'a' || g.has 's' then
        .say (String.join (paths.map (line ((g.last? 's').getD ""))))
      else
        match paths with
        | [path] => .say (line "" path)
        | [path, ending] => .say (line ending path)
        | _ :: _ :: extra :: _ => .extraOperand c extra
        | [] => .missingOperand c 1) 1

def dirname : Program :=
  withOptions [{ letter := 'z', words := ["zero"] }] (fun c g =>
    match g.operands with
    | [] => .missingOperand c 1
    | paths => .say (String.join (paths.map fun path => directoryName path ++ endOf g))) 1

/-- The place in which a program runs. -/
def pwd : Program := fun c =>
  .say ("/" ++ "/".intercalate c.files.home ++ "\n")

/-- Tells what the variables with the given names stand for, or all of them. -/
def printenv : Program := fun c =>
  match c.arguments with
  | [] => .say (String.join (c.bindings.map fun (name, value) => s!"{name}={value}\n"))
  | names =>
    let found := names.map fun name => c.bindings.lookup name
    { exitCode := if found.all Option.isSome then 0 else 1
      stdout := bytes (String.join (found.map fun v => (v.map (· ++ "\n")).getD "")) }

/-! ## Doing nothing -/

/-- The seconds that an argument asks for are not waited. -/
def sleep : Program := fun c =>
  let isInterval := fun (a : String) =>
    match a.toList.getLast? with
    | some u =>
      let cs := if "smhd".toList.contains u then a.toList.dropLast else a.toList
      !cs.isEmpty && cs.all fun d => d.isDigit || d = '.'
    | none => false
  match c.arguments with
  | [] => .missingOperand c 1
  | arguments =>
    match arguments.filter (!isInterval ·) with
    | [] => {}
    | wrong =>
      let text := "\n".intercalate (wrong.map fun a => s!"invalid time interval '{a}'")
      .misuse c text 1

end Testbed.Machine
