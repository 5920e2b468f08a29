import Testbed.Machine.Program
import Testbed.Machine.Shell.Syntax

/-! # The state of the command interpreter

What scripts can see and change: variables, functions, files, streams and what has
been written to them, and how control leaves a command.
-/

namespace Testbed.Machine.Shell

structure Variable where
  value : Option String
  exported : Bool := false
  readOnly : Bool := false
  deriving DecidableEq, Repr

/-- Where a stream leads. A channel collects what is written to it. -/
inductive Target where
  | channel (number : Nat)
  | file (place : List String)
  | full
  deriving DecidableEq, Repr

/-- How control goes on behind a command: to the next one, out of so many loops, out of a function,
or out of the script. -/
inductive Flow where
  | next
  | breaks (loops : Nat)
  | continues (loops : Nat)
  | returns
  | exits
  | killed (signal : Nat)
  deriving DecidableEq, Repr

structure State where
  /-- What the interpreter calls itself. -/
  name : String
  parameters : List String := []
  bindings : List (String × Variable) := []
  functions : List (String × Command) := []
  /-- The texts that stand in the script. -/
  documents : List (Nat × Word) := []
  status : Nat := 0
  /-- The exit code of the last command whose output was made part of a word. -/
  substituted : Nat := 0
  files : FileTree
  input : List UInt8 := []
  streams : List (Nat × Target) := [(1, .channel 0), (2, .channel 1)]
  /-- What has been written to channels, newest first. -/
  written : List (Nat × List UInt8) := []
  channels : Nat := 2
  line : Nat := 1
  flow : Flow := .next
  options : List Char := []
  /-- What to do on a signal, or on `EXIT`. -/
  traps : List (String × String) := []
  /-- What new files may not be used for. -/
  mask : String := "0022"
  /-- How many letters of an argument have been looked at for options. -/
  letters : Nat := 0
  loops : Nat := 0
  /-- What the local variables of the functions being called stood for before. -/
  hidden : List (List (String × Option Variable)) := []

namespace State

/-! ## Variables -/

def value? (s : State) (name : String) : Option String :=
  (s.bindings.lookup name).bind Variable.value

def value (s : State) (name : String) : String :=
  (s.value? name).getD ""

def isReadOnly (s : State) (name : String) : Bool :=
  (s.bindings.lookup name).any Variable.readOnly

def put (name : String) (v : Variable) (s : State) : State :=
  { s with bindings := (name, v) :: s.bindings.filter (·.1 ≠ name) }

def remove (name : String) (s : State) : State :=
  { s with bindings := s.bindings.filter (·.1 ≠ name) }

/-- Gives a value to a variable, which is exported as before. -/
def assign (name value : String) (s : State) : State :=
  let v := (s.bindings.lookup name).getD { value := none, exported := s.options.contains 'a' }
  s.put name { v with value := some value }

/-- Puts a variable back to what it was. -/
def restore (name : String) (v : Option Variable) (s : State) : State :=
  match v with
  | none => s.remove name
  | some v => s.put name v

/-- The characters that part words. -/
def separators (s : State) : List Char :=
  ((s.value? "IFS").getD " \t\n").toList

/-- The number of the process that interprets. -/
def ownProcess : Nat :=
  1

/-- The value of a parameter by its name, number or sign. -/
def parameter? (s : State) (name : String) : Option String :=
  match name with
  | "#" => some (toString s.parameters.length)
  | "?" => some (toString s.status)
  | "$" => some (toString ownProcess)
  | "-" => some (String.ofList s.options)
  | "!" => some ""
  | "0" => some s.name
  | name =>
    match name.toNat? with
    | some n => s.parameters[n - 1]?
    | none => s.value? name

/-! ## Streams -/

def target (s : State) (stream : Nat) : Option Target :=
  s.streams.lookup stream

def redirect (stream : Nat) (target : Target) (s : State) : State :=
  { s with streams := (stream, target) :: s.streams.filter (·.1 ≠ stream) }

def close (stream : Nat) (s : State) : State :=
  { s with streams := s.streams.filter (·.1 ≠ stream) }

/-- Whether what is written to a stream arrives. -/
def canWrite (s : State) (stream : Nat) : Bool :=
  match s.target stream with
  | none | some .full => false
  | some _ => true

/-- Appends to a file. -/
def append (files : FileTree) (place : List String) (written : List UInt8) : FileTree :=
  match files.kind? place with
  | some (.file text) => files.put place (.file (text ++ Text.Utf8.decodeString written))
  | _ => files

def write (stream : Nat) (written : List UInt8) (s : State) : State :=
  if written.isEmpty then s
  else
    match s.target stream with
    | some (.channel n) => { s with written := (n, written) :: s.written }
    | some (.file place) => { s with files := append s.files place written }
    | some .full | none => s

def print (text : String) (s : State) : State :=
  s.write 1 (bytes text)

/-- Writes a complaint with the name of the interpreter and the line of the script. -/
def complain (text : String) (s : State) : State :=
  s.write 2 (bytes s!"{s.name}: {s.line}: {text}\n")

def withStatus (status : Nat) (s : State) : State :=
  { s with status }

/-- Complains and leaves the script. -/
def fail (text : String) (s : State) : State :=
  { s.complain text with status := 2, flow := .exits }

/-- What has been written to a channel. -/
def collected (channel : Nat) (s : State) : List UInt8 :=
  ((s.written.filter (·.1 = channel)).reverse.map (·.2)).flatten

/-- Runs something with its output going to a channel of its own, and hands out what it wrote. -/
def capture (run : State → State) (s : State) : List UInt8 × State :=
  let channel := s.channels
  let t := run { s.redirect 1 (.channel channel) with channels := channel + 1 }
  (t.collected channel,
    { t with written := t.written.filter (·.1 ≠ channel), streams := s.streams })

/-- Runs something that can change files and write, and nothing else. -/
def apart (run : State → State) (s : State) : State :=
  let t := run { s with flow := .next, traps := [], loops := 0 }
  { s with
    status := t.status
    files := { t.files with home := s.files.home }
    input := t.input
    written := t.written
    channels := t.channels
    flow := match t.flow with
      | .killed signal => .killed signal
      | _ => s.flow }

/-- Takes up what a program has left. -/
def take (o : Output) (s : State) : State :=
  let s := { s with
    files := o.files.getD s.files
    input := o.unread.getD s.input }
  let s := (s.write 2 o.stderr).write 1 o.stdout
  { s with status := if o.exitCode < 0 then 128 + o.exitCode.natAbs else o.exitCode.toNat }

end State

end Testbed.Machine.Shell
