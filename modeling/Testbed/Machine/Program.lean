import Testbed.Machine.FileTree
import Testbed.Text.Utf8

/-! # Programs

A program reads its arguments, its input and the files of the machine, and leaves
bytes on two streams, an exit code, and perhaps other files.
-/

namespace Testbed.Machine

/-- A program as it is called. -/
structure Call where
  /-- What the program calls itself when it complains. -/
  name : String
  arguments : List String
  input : List UInt8 := []
  files : FileTree
  /-- The variables that have been handed on. -/
  bindings : List (String × String) := []

structure Output where
  /-- A negative number is that of the signal which ended the program. -/
  exitCode : Int := 0
  stdout : List UInt8 := []
  stderr : List UInt8 := []
  /-- What has been left of the input, if the program has read any. -/
  unread : Option (List UInt8) := none
  /-- The files, if the program has changed them. -/
  files : Option FileTree := none

abbrev Program : Type :=
  Call → Output

/-! ## Finding programs -/

/-- The directories that a search path lists. -/
def pathDirectories (path : String) : List String :=
  (path.splitOn ":").map fun d => if d.isEmpty then "." else d

namespace FileTree

/-- The name of the program that a path leads to. -/
def programAt (t : FileTree) (path : String) : Except Fault String :=
  match t.find path with
  | .ok (.program program) => .ok program
  | .ok _ => .error .denied
  | .error fault => .error fault

/-- Looks in one directory after the other; having been denied once counts more than not having
found anything. -/
def searchProgram (t : FileTree) (name : String) : Fault → List String → Except Fault String
  | fault, [] => .error fault
  | fault, directory :: rest =>
    let path := s!"{directory}/{name}"
    match t.programAt path with
    | .ok program => .ok program
    | .error .denied =>
      searchProgram t name (if t.isDirectory path then fault else .denied) rest
    | .error _ => searchProgram t name fault rest

/-- The program of a command, which is a path if it contains a slash. -/
def programOf (t : FileTree) (directories : List String) (command : String) : Except Fault String :=
  if command.contains '/' then t.programAt command
  else t.searchProgram command .notFound directories

end FileTree

def bytes (s : String) : List UInt8 :=
  s.toUTF8.toList

namespace Output

def say (s : String) : Output :=
  { stdout := bytes s }

def answer (yes : Bool) : Output :=
  { exitCode := if yes then 0 else 1 }

/-- A complaint on a line of its own. -/
def complain (c : Call) (s : String) (code : Int) : Output :=
  { exitCode := code, stderr := bytes s!"{c.name}: {s}\n" }

/-- A complaint about how a program has been called. -/
def misuse (c : Call) (s : String) (code : Int) : Output :=
  complain c s!"{s}\nTry '{c.name} --help' for more information." code

end Output

end Testbed.Machine
