import Testbed.Environment.Local
import Testbed.Machine.Shell.Run
import Testbed.Machine.Tool.Characters
import Testbed.Machine.Tool.Columns
import Testbed.Machine.Tool.Echo
import Testbed.Machine.Tool.Expr
import Testbed.Machine.Tool.Files
import Testbed.Machine.Tool.Grep
import Testbed.Machine.Tool.Names
import Testbed.Machine.Tool.Runners
import Testbed.Machine.Tool.Sed.Run
import Testbed.Machine.Tool.Sequence
import Testbed.Machine.Tool.Sorting
import Testbed.Machine.Tool.Streams

/-! # A machine in memory

A machine runs the programs that lie in its file tree, found by path or by name.
It stands in for the machine at hand, so that sessions can be tried out.
-/

namespace Testbed

structure Machine where
  files : Machine.FileTree
  /-- Where programs are looked for by name. -/
  searchPath : List String
  deriving Repr

namespace Machine

/-- The programs that run no other ones. -/
def tools : Shell.Tools := [
  ("[", test), ("basename", basename), ("cat", cat), ("cp", cp), ("cut", cut), ("dirname", dirname),
  ("echo", echo), ("expr", expr), ("false", fun _ => { exitCode := 1 }), ("grep", grep),
  ("head", head), ("id", id), ("ls", ls), ("mkdir", mkdir), ("mv", mv), ("paste", paste),
  ("printenv", printenv), ("printf", printf), ("pwd", pwd), ("rev", rev), ("rm", rm),
  ("rmdir", rmdir), ("sed", sed), ("seq", seq), ("sha256sum", sha256sum), ("sleep", sleep),
  ("sort", sort), ("tac", tac), ("tail", tail), ("tee", tee), ("test", test), ("touch", touch),
  ("tr", tr), ("true", fun _ => {}), ("uname", uname), ("uniq", uniq), ("wc", wc),
  ("which", which), ("whoami", whoami), ("yes", yes)]

/-- A bound on the steps of a script. -/
def patience : Nat :=
  100000

/-- All programs, in which those that run others do so to the given depth. -/
def programsTo : Nat → List (String × Program)
  | 0 => Shell.interpreters.map (·, Shell.interpret tools patience) ++ tools
  | n + 1 =>
    let inner := programsTo n
    let runners := [("env", env inner), ("nohup", wrapper 0 inner), ("timeout", wrapper 1 inner),
      ("xargs", xargs inner)]
    let all := tools ++ runners
    Shell.interpreters.map (·, Shell.interpret all patience) ++ all

/-- The programs; those that run others are not nested more deeply. -/
def programs : List (String × Program) :=
  programsTo 3

/-- The directories of the machine that are not empty paths. -/
def directories : List (List String) := [
  ["bin"], ["boot"], ["dev"], ["etc"], ["home"], ["lib"], ["media"], ["mnt"], ["opt"], ["proc"],
  ["root"], ["run"], ["sbin"], ["srv"], ["sys"], ["tmp"], ["tmp", "work"], ["usr"], ["usr", "bin"],
  ["usr", "lib"], ["usr", "local"], ["usr", "local", "bin"], ["usr", "local", "sbin"],
  ["usr", "sbin"], ["usr", "share"], ["var"], ["var", "lib"], ["var", "log"], ["var", "tmp"]]

def devices : List (String × FileKind) := [
  ("full", .full), ("null", .sink), ("random", .sink), ("tty", .sink), ("urandom", .sink),
  ("zero", .sink)]

/-- The files that tell about users and hosts. -/
def settings : List (String × String) := [
  ("group", "root:x:0:\n"), ("hostname", "localhost\n"), ("hosts", "127.0.0.1\tlocalhost\n"),
  ("os-release", "ID=debian\nNAME=\"Debian GNU/Linux\"\n"),
  ("passwd", "root:x:0:0:root:/root:/bin/sh\n"), ("shadow", "root:*:19000:0:99999:7:::\n")]

/-- The machine with the programs in their usual places, and an empty directory to work in. -/
def standard : Machine where
  files := {
    entries :=
      directories.map (·, .directory) ++
      devices.map (fun (name, kind) => (["dev", name], kind)) ++
      settings.map (fun (name, text) => (["etc", name], .file text)) ++
      programs.flatMap fun (name, _) =>
        [(["bin", name], .program name), (["usr", "bin", name], .program name)]
    home := ["tmp", "work"] }
  searchPath := ["/usr/local/sbin", "/usr/local/bin", "/usr/sbin", "/usr/bin", "/sbin", "/bin"]

/-- The program that a path leads to. -/
def programAt (m : Machine) (path : String) : Except Fault Program :=
  match m.files.programAt path with
  | .error fault => .error fault
  | .ok name =>
    match programs.lookup name with
    | some program => .ok program
    | none => .error .denied

/-- Looks in one directory after the other; having been denied once counts more than not having
found anything. -/
def search (m : Machine) (name : String) (denied : Bool) : List String → Except Fault Program
  | [] => .error (if denied then .denied else .notFound)
  | directory :: rest =>
    match m.programAt s!"{directory}/{name}" with
    | .ok program => .ok program
    | .error .denied => m.search name true rest
    | .error .notFound | .error .notDirectory => m.search name denied rest
    | .error fault => .error fault

/-- The program of a command, which is a path if it contains a slash. -/
def program (m : Machine) (command : String) : Except Fault Program :=
  if command.isEmpty then .error .notFound
  else if command.contains '/' then m.programAt command
  else if FileTree.nameLimit < command.utf8ByteSize then .error .nameTooLong
  else m.search command false m.searchPath

/-- What a program finds among its variables. -/
def bindings (m : Machine) : List (String × String) := [
  ("HOME", "/root"), ("PATH", ":".intercalate m.searchPath),
  ("PWD", "/" ++ "/".intercalate m.files.home)]

/-- Runs a program without any input, and hands over the machine as the program leaves it. A signal
that ends the program shows as a negative exit code. -/
def spawn (m : Machine) (command : String) (arguments : List String) :
    Except Fault (Remains × Machine) :=
  let found :=
    if (command :: arguments).any (·.contains '\x00') then .error .nulInCommand
    else m.program command
  match found with
  | .error fault => .error fault
  | .ok program =>
    let output := program { name := command, arguments, files := m.files, bindings := m.bindings }
    let exitCode := if output.exitCode < 0 then none else some output.exitCode
    .ok (⟨exitCode, output.stdout, output.stderr⟩, { m with files := output.files.getD m.files })

/-- Every program finds the machine as it was. -/
def host {σ : Type} (m : Machine) : Host σ where
  spawn command arguments s :=
    (((m.spawn command arguments).map (·.1)).mapError (·.message), s)

/-- Every program finds the machine as the one before has left it. -/
def lasting : Host Machine where
  spawn command arguments m :=
    match m.spawn command arguments with
    | .error fault => (.error fault.message, m)
    | .ok (remains, m) => (.ok remains, m)

/-- Runs commands one after the other, each of them on what the others have left. -/
def executeAll (m : Machine) : List (String × List String) → List (Except Trouble CommandResult)
  | [] => []
  | (command, arguments) :: rest =>
    let done := lasting.execute command arguments m
    done.result :: executeAll done.state rest

/-- The machine as an environment, taken to have the given kind of operating system. -/
def environment {σ : Type} (m : Machine) (os : Os) : Environment σ :=
  m.host.environment (some os)

end Machine

end Testbed
