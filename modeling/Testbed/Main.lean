import Testbed.Machine.Session

/-! # The program

Reads the command line and the machine's release file, and carries out the
session's plan on the disk. Programs run on the machine in memory.
-/

namespace Testbed.Main

open Session

/-- The text of a file, if it can be read. -/
def read? (path : String) : IO (Option String) := do
  try
    pure (some (← IO.FS.readFile path))
  catch _ => pure none

/-- The number that stands behind a word in a text; zero if there is none. -/
def numberAfter (word text : String) : Nat :=
  let cs := (((text.splitOn word).drop 1).headD "").toList.dropWhile (· = ' ')
  (CommandLine.digits? (cs.takeWhile Char.isDigit)).getD 0

/-- Milliseconds since the beginning of 1970, to the second: when the system was started, and how
long it has been up. -/
def moment : IO Nat := do
  match ← read? "/proc/stat", ← read? "/proc/uptime" with
  | some stat, some uptime =>
    pure (1000 * (numberAfter "btime" stat + numberAfter "up" ("up" ++ uptime)))
  | _, _ => IO.monoMsNow

def setting (arguments : List String) : IO Setting := do
  let startedAt ← moment
  pure {
    arguments
    host := { (Machine.standard.host : Host Counters) with release := ← read? "/etc/os-release" }
    readFilter := fun text => (LogFilter.read? text).map LogFilter.permits
    logFilter := ← IO.getEnv "RUST_LOG"
    directory := toString (← IO.currentDir)
    startedAt }

/-- What a change to the disk comes to. -/
def changing (change : IO Unit) : ExceptT String IO Unit := ExceptT.mk do
  try
    change
    pure (.ok ())
  catch e => pure (.error (toString e))

def disk : Disk IO where
  makeAll path := changing (IO.FS.createDirAll path)
  write path text := changing (IO.FS.writeFile path text)

end Testbed.Main

open Testbed Testbed.Main in
def main (arguments : List String) : IO UInt32 := do
  let plan := Session.plan (← setting arguments)
  for line in plan.log do
    IO.eprintln s!"{line.level.name} {line.text}"
  let outcome ← plan.ending.carryOut disk
  for note in outcome.notes do
    IO.eprintln note
  IO.print outcome.output
  pure (UInt32.ofNat outcome.exitCode)
