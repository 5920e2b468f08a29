/-! # Faults of the operating system -/

namespace Testbed.Machine

/-- What a call to the operating system can fail with. -/
inductive Fault where
  | notFound
  | denied
  | alreadyExists
  | notDirectory
  | isDirectory
  | invalid
  | deviceFull
  | nameTooLong
  | notEmpty
  | busy
  /-- A path with a NUL in it, which the operating system is not even asked for. -/
  | nulInPath
  | nulInCommand
  deriving DecidableEq, Repr

/-- The number by which the operating system knows a fault of its own. -/
def Fault.number? : Fault → Option Nat
  | notFound => some 2
  | denied => some 13
  | busy => some 16
  | alreadyExists => some 17
  | notDirectory => some 20
  | isDirectory => some 21
  | invalid => some 22
  | deviceFull => some 28
  | nameTooLong => some 36
  | notEmpty => some 39
  | nulInPath | nulInCommand => none

def Fault.text : Fault → String
  | notFound => "No such file or directory"
  | denied => "Permission denied"
  | alreadyExists => "File exists"
  | notDirectory => "Not a directory"
  | isDirectory => "Is a directory"
  | invalid => "Invalid argument"
  | deviceFull => "No space left on device"
  | nameTooLong => "File name too long"
  | notEmpty => "Directory not empty"
  | busy => "Device or resource busy"
  | nulInPath => "file name contained an unexpected NUL byte"
  | nulInCommand => "nul byte found in provided data"

def Fault.message (f : Fault) : String :=
  match f.number? with
  | some n => s!"{f.text} (os error {n})"
  | none => f.text

end Testbed.Machine
