import Testbed.Machine.Tool.Names

/-! # Files and directories

The tools that list, make, copy, move and take away files and directories.
-/

namespace Testbed.Machine

namespace Files

/-- The files as they are left, what has been told, and the complaints. -/
structure Progress where
  files : FileTree
  stdout : List UInt8 := []
  stderr : List UInt8 := []
  failed : Bool := false

def Progress.tell (p : Progress) (line : String) : Progress :=
  { p with stdout := p.stdout ++ bytes (line ++ "\n") }

def Progress.complain (c : Call) (text : String) (p : Progress) : Progress :=
  { p with stderr := p.stderr ++ bytes s!"{c.name}: {text}\n", failed := true }

def Progress.output (p : Progress) (code : Int := 1) : Output :=
  { exitCode := if p.failed then code else 0
    stdout := p.stdout, stderr := p.stderr, files := some p.files }

/-- Deals with one operand after the other. -/
def each (c : Call) (operands : List String) (step : Progress → String → Progress) : Output :=
  (operands.foldl step { files := c.files }).output 1

/-- A path in a directory. -/
def inside (directory name : String) : String :=
  if Path.endsInSlash directory then directory ++ name else s!"{directory}/{name}"

/-! ## Lists -/

/-- How names are listed. -/
structure Listing where
  dots : Bool := false
  ownNames : Bool := false
  reversed : Bool := false
  /-- A mark is put behind the names of directories. -/
  marked : Bool := false
  /-- What parts names, and what ends them. -/
  between : String := "\n"

def Listing.ordered (l : Listing) (names : List String) : List String :=
  let names := names.mergeSort fun a b => a ≤ b
  if l.reversed then names.reverse else names

def Listing.lines (l : Listing) (names : List String) : String :=
  if names.isEmpty then "" else l.between.intercalate names ++ "\n"

def Listing.directory (l : Listing) (files : FileTree) (path : String) : String :=
  let place := (files.resolve path).toOption.getD []
  let names := (files.names place).filter fun n => l.dots || n.toList.head? ≠ some '.'
  let names := if l.ownNames then "." :: ".." :: names else names
  let mark := fun (name : String) =>
    if l.marked && files.isDirectory (inside path name) then name ++ "/" else name
  l.lines ((l.ordered names).map mark)

def rules : List OptionRule := [
  { letter := '1' }, { letter := 'a', words := ["all"] }, { letter := 'A', words := ["almost-all"] },
  { letter := 'd', words := ["directory"] }, { letter := 'F', words := ["classify"] },
  { letter := 'm' }, { letter := 'p' }, { letter := 'r', words := ["reverse"] }]

end Files

open Files in
def ls : Program :=
  withOptions Files.rules (fun c g =>
    let l : Listing := {
      dots := g.has 'a' || g.has 'A', ownNames := g.has 'a', reversed := g.has 'r'
      marked := g.has 'p' || g.has 'F', between := if g.has 'm' then ", " else "\n" }
    let operands := if g.operands.isEmpty then ["."] else g.operands
    let missing := operands.filterMap fun o =>
      match c.files.find o with
      | .error fault => some s!"{c.name}: cannot access '{o}': {fault.text}\n"
      | .ok _ => none
    let found := operands.filter fun o => (c.files.find o).toOption.isSome
    let isListed := fun (o : String) => c.files.isDirectory o && !g.has 'd'
    let single := l.lines (l.ordered (found.filter (!isListed ·)))
    let directories := (l.ordered (found.filter isListed)).map fun o =>
      (if 1 < operands.length then s!"{o}:\n" else "") ++ l.directory c.files o
    let parts := (if single.isEmpty then [] else [single]) ++ directories
    { exitCode := if missing.isEmpty then 0 else 2
      stdout := bytes ("\n".intercalate parts)
      stderr := bytes (String.join missing) }) 2

/-! ## Making and taking away -/

open Files in
/-- Makes a directory, with those it lies in if that is wanted. -/
def mkdir : Program :=
  withOptions [
    { letter := 'p', words := ["parents"] }, { letter := 'v', words := ["verbose"] },
    { letter := 'm', words := ["mode"], takesArgument := true }] (fun c g =>
    let make := fun (p : Progress) (path : String) =>
      match p.files.makeDirectory path with
      | .ok files =>
        let p := { p with files }
        if g.has 'v' then p.tell s!"{c.name}: created directory '{path}'" else p
      | .error fault =>
        if g.has 'p' && fault = .alreadyExists && p.files.isDirectory path then p
        else p.complain c s!"cannot create directory '{path}': {fault.text}"
    let step := fun (p : Progress) (path : String) =>
      if g.has 'p' && !path.isEmpty then
        let start := if Path.isAbsolute path then "/" else ""
        let names := Path.names path
        let steps := (List.range names.length).map fun i =>
          start ++ "/".intercalate (names.take (i + 1))
        match steps.find? fun s => (p.files.find s).toOption.any (· ≠ .directory) with
        | some flaw =>
          let fault := if some flaw = steps.getLast? then Fault.alreadyExists else .notDirectory
          p.complain c s!"cannot create directory '{flaw}': {fault.text}"
        | none => steps.foldl make p
      else make p path
    if g.operands.isEmpty then .missingOperand c 1 else each c g.operands step) 1

open Files in
def rmdir : Program :=
  withOptions [{ letter := 'p', words := ["parents"] }, { letter := 'v', words := ["verbose"] }]
    (fun c g =>
    let step := fun (p : Progress) (path : String) =>
      let p := if g.has 'v' then p.tell s!"{c.name}: removing directory, '{path}'" else p
      match p.files.removeDirectory path with
      | .ok files => { p with files }
      | .error fault => p.complain c s!"failed to remove '{path}': {fault.text}"
    if g.operands.isEmpty then .missingOperand c 1 else each c g.operands step) 1

open Files in
def rm : Program :=
  withOptions [
    { letter := 'd', words := ["dir"] }, { letter := 'f', words := ["force"] },
    { letter := 'r', words := ["recursive"] }, { letter := 'R' },
    { letter := 'v', words := ["verbose"] }] (fun c g =>
    let deep := g.has 'r' || g.has 'R'
    let step := fun (p : Progress) (path : String) =>
      let refuse := fun (fault : Fault) => p.complain c s!"cannot remove '{path}': {fault.text}"
      let removed := fun (files : FileTree) (what : String) =>
        let p := { p with files }
        if g.has 'v' then p.tell s!"removed {what}'{path}'" else p
      let last := ((Path.names path).getLast?).getD ""
      match p.files.find path, p.files.resolve path with
      | .error .notFound, _ => if g.has 'f' then p else refuse .notFound
      | .error .notDirectory, _ => if g.has 'f' then p else refuse .notDirectory
      | .error fault, _ => refuse fault
      | .ok .directory, .ok place =>
        if deep then
          if place.isEmpty then
            (p.complain c s!"it is dangerous to operate recursively on '{path}'").complain c
              "use --no-preserve-root to override this failsafe"
          else if last = "." || last = ".." then
            p.complain c s!"refusing to remove '.' or '..' directory: skipping '{path}'"
          else removed (p.files.drop place) "directory "
        else if g.has 'd' then
          match p.files.removeDirectory path with
          | .ok files => removed files "directory "
          | .error fault => refuse fault
        else refuse .isDirectory
      | .ok _, .ok place => removed (p.files.drop place) ""
      | .ok _, .error fault => refuse fault
    if g.operands.isEmpty then if g.has 'f' then {} else .missingOperand c 1
    else each c g.operands step) 1

open Files in
/-- Makes files that are missing. -/
def touch : Program :=
  withOptions [
    { letter := 'a' }, { letter := 'c', words := ["no-create"] }, { letter := 'm' },
    { letter := 'd', words := ["date"], takesArgument := true },
    { letter := 'r', words := ["reference"], takesArgument := true },
    { letter := 't', takesArgument := true }] (fun c g =>
    let step := fun (p : Progress) (path : String) =>
      match p.files.find path with
      | .ok _ => p
      | .error .notFound =>
        if g.has 'c' then p
        else if Path.endsInSlash path then
          p.complain c s!"setting times of '{path}': {Fault.notFound.text}"
        else
          match p.files.write path "" with
          | .ok files => { p with files }
          | .error fault => p.complain c s!"cannot touch '{path}': {fault.text}"
      | .error fault => p.complain c s!"cannot touch '{path}': {fault.text}"
    if g.operands.isEmpty then .misuse c "missing file operand" 1
    else each c g.operands step) 1

/-! ## Copying and moving -/

namespace Files

/-- Copies or moves one file or directory to a place of its own. -/
def transfer (c : Call) (moves deep tells : Bool) (source target : String) (p : Progress) :
    Progress :=
  let told := fun (files : FileTree) =>
    let p := { p with files }
    if !tells then p
    else if moves then p.tell s!"renamed '{source}' -> '{target}'"
    else p.tell s!"'{source}' -> '{target}'"
  match p.files.find source, p.files.resolve source with
  | .error fault, _ | _, .error fault => p.complain c s!"cannot stat '{source}': {fault.text}"
  | .ok kind, .ok place =>
    let isDirectory := kind = .directory
    let noTarget := fun (fault : Fault) =>
      if moves then p.complain c s!"cannot move '{source}' to '{target}': {fault.text}"
      else if isDirectory then p.complain c s!"cannot create directory '{target}': {fault.text}"
      else p.complain c s!"cannot create regular file '{target}': {fault.text}"
    if isDirectory && !moves && !deep then
      p.complain c s!"-r not specified; omitting directory '{source}'"
    else
      match p.files.resolve target with
      | .error fault => noTarget fault
      | .ok goal =>
        if goal = place then p.complain c s!"'{source}' and '{target}' are the same file"
        else if isDirectory && FileTree.isWithin place goal then
          if moves then
            p.complain c s!"cannot move '{source}' to a subdirectory of itself, '{target}'"
          else p.complain c s!"cannot copy a directory, '{source}', into itself, '{target}'"
        else if Path.endsInSlash target && !isDirectory then noTarget .notDirectory
        else if p.files.kind? goal = some .sink then told p.files
        else
          let files := p.files.copied place goal
          told (if moves then files.drop place else files)

/-- Copies or moves files to a name or into a directory. -/
def tool (moves : Bool) : Program :=
  withOptions [
    { letter := 'a', words := ["archive"] }, { letter := 'f', words := ["force"] },
    { letter := 'p' }, { letter := 'r', words := ["recursive"] }, { letter := 'R' },
    { letter := 't', words := ["target-directory"], takesArgument := true },
    { letter := 'T', words := ["no-target-directory"] },
    { letter := 'v', words := ["verbose"] }] (fun c g =>
    let run := fun (sources : List String) (target : String) (into : Bool) =>
      each c sources fun p source =>
        let goal := if into then inside target (lastName source) else target
        transfer c moves (g.has 'a' || g.has 'r' || g.has 'R') (g.has 'v') source goal p
    match g.last? 't', g.operands.reverse with
    | _, [] => .misuse c "missing file operand" 1
    | some directory, _ => run g.operands directory true
    | none, [one] => .misuse c s!"missing destination file operand after '{one}'" 1
    | none, target :: sources =>
      let into := c.files.isDirectory target && !g.has 'T'
      if 1 < sources.length && !into then
        let fault := match c.files.find target with
          | .error fault => fault
          | .ok _ => .notDirectory
        .complain c s!"target '{target}': {fault.text}" 1
      else run sources.reverse target into) 1

end Files

def cp : Program :=
  Files.tool false

def mv : Program :=
  Files.tool true

end Testbed.Machine
