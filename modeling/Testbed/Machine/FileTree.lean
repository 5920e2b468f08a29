import Testbed.Machine.Fault
import Testbed.Text.Path

/-! # File trees

Directories, files and devices by the names that lead to them from the root, with
the faults that an operating system answers when a path leads astray.
-/

namespace Testbed.Machine

inductive FileKind where
  | directory
  | file (text : String)
  /-- Takes everything that is written to it, and keeps nothing. -/
  | sink
  /-- Takes nothing. -/
  | full
  | program (name : String)
  deriving DecidableEq, Repr

structure FileTree where
  entries : List (List String × FileKind)
  /-- The directory that relative paths start from. -/
  home : List String
  deriving Repr

namespace FileTree

/-- The longest name that the operating system takes, in bytes. -/
def nameLimit : Nat :=
  255

/-- A path of so many bytes is refused. -/
def pathLimit : Nat :=
  4096

def kind? (t : FileTree) : List String → Option FileKind
  | [] => some .directory
  | place => t.entries.lookup place

def put (t : FileTree) (place : List String) (kind : FileKind) : FileTree :=
  { t with entries := (place, kind) :: t.entries.filter (·.1 ≠ place) }

/-- The names in a directory. -/
def names (t : FileTree) (place : List String) : List String :=
  (t.entries.filter fun (path, _) => path ≠ [] && path.dropLast = place).filterMap (·.1.getLast?)

/-- Follows names from a place; every place on the way must be a directory. -/
def walk (t : FileTree) (place : List String) : List String → Except Fault (List String)
  | [] => .ok place
  | name :: rest =>
    match t.kind? place with
    | none => .error .notFound
    | some .directory =>
      if name = "." then t.walk place rest
      else if name = ".." then t.walk place.dropLast rest
      else if name.utf8ByteSize > nameLimit then .error .nameTooLong
      else t.walk (place ++ [name]) rest
    | some _ => .error .notDirectory

/-- The place that a path leads to, whether or not there is something. -/
def resolve (t : FileTree) (path : String) : Except Fault (List String) :=
  if path.isEmpty then .error .notFound
  else if path.contains '\x00' then .error .nulInPath
  else if path.utf8ByteSize ≥ pathLimit then .error .nameTooLong
  else t.walk (if Path.isAbsolute path then [] else t.home) (Path.names path)

/-- What a path leads to. -/
def find (t : FileTree) (path : String) : Except Fault FileKind :=
  match t.resolve path with
  | .error fault => .error fault
  | .ok place =>
    match t.kind? place with
    | none => .error .notFound
    | some .directory => .ok .directory
    | some kind => if Path.endsInSlash path then .error .notDirectory else .ok kind

def isDirectory (t : FileTree) (path : String) : Bool :=
  match t.find path with
  | .ok .directory => true
  | _ => false

def makeDirectory (t : FileTree) (path : String) : Except Fault FileTree :=
  match t.resolve path with
  | .error fault => .error fault
  | .ok place =>
    match t.kind? place with
    | none => .ok (t.put place .directory)
    | some _ => .error .alreadyExists

/-- Makes a directory and those it lies in, as many as are missing. The number bounds the steps
up; the length of the path suffices. -/
def makeDirectories (t : FileTree) : Nat → String → Except Fault FileTree
  | 0, _ => .error .notFound
  | n + 1, path =>
    if path.isEmpty then .ok t
    else
      match t.makeDirectory path with
      | .ok t => .ok t
      | .error .notFound =>
        match Path.parent? path with
        | none => .error .notFound
        | some above =>
          match t.makeDirectories n above with
          | .error fault => .error fault
          | .ok t =>
            match t.makeDirectory path with
            | .ok t => .ok t
            | .error fault => if t.isDirectory path then .ok t else .error fault
      | .error fault => if t.isDirectory path then .ok t else .error fault

def makeAll (t : FileTree) (path : String) : Except Fault FileTree :=
  t.makeDirectories (path.length + 1) path

/-- Writes a file, which is made if it is missing and replaced if it is there. -/
def write (t : FileTree) (path text : String) : Except Fault FileTree :=
  match t.resolve path with
  | .error fault => .error fault
  | .ok place =>
    if Path.endsInSlash path then .error .isDirectory
    else
      match t.kind? place with
      | some .directory => .error .isDirectory
      | some .sink => .ok t
      | some .full => .error .deviceFull
      | _ => .ok (t.put place (.file text))

/-! ## Taking away -/

/-- Whether one place lies in another, or is it. -/
def isWithin (outer inner : List String) : Bool :=
  outer.isPrefixOf inner

/-- Without a place and all that lies in it. -/
def drop (t : FileTree) (place : List String) : FileTree :=
  { t with entries := t.entries.filter fun (p, _) => !isWithin place p }

/-- Takes an empty directory away. -/
def removeDirectory (t : FileTree) (path : String) : Except Fault FileTree :=
  match t.find path with
  | .error fault => .error fault
  | .ok .directory =>
    match t.resolve path, (Path.names path).getLast? with
    | .ok [], _ => .error .busy
    | .ok place, last =>
      if last = some "." then .error .invalid
      else if last = some ".." || !(t.names place).isEmpty then .error .notEmpty
      else .ok (t.drop place)
    | .error fault, _ => .error fault
  | .ok _ => .error .notDirectory

/-- What lies at a place, and in it, copied to another place. -/
def copied (t : FileTree) (source target : List String) : FileTree :=
  let moved := t.entries.filterMap fun (p, kind) =>
    if isWithin source p then some (target ++ p.drop source.length, kind) else none
  moved.foldr (fun (p, kind) t => t.put p kind) t

def read? (t : FileTree) (path : String) : Option String :=
  match t.find path with
  | .ok (.file text) => some text
  | .ok .sink => some ""
  | _ => none

end FileTree

end Testbed.Machine
