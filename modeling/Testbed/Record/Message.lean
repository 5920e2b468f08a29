import Testbed.Environment.Facts
import Testbed.Record.Status

/-! # Messages

What is told to the outside while a run goes on: the state of a record each time
it is set, and the state of the whole run.
-/

namespace Testbed

structure RecordMessage where
  id : String
  /-- The full name of the case. -/
  name : String
  status : Status
  /-- In milliseconds. -/
  elapsed : Nat
  text : String
  facts : Facts
  deriving DecidableEq, Repr

structure RunMessage where
  run : String
  status : RunStatus
  /-- In milliseconds. -/
  elapsed : Nat := 0
  text : String := ""
  deriving DecidableEq, Repr

inductive Message where
  | record (message : RecordMessage)
  | run (message : RunMessage)
  deriving DecidableEq, Repr

namespace Message

def recordSchema : String :=
  "lisa.test_result@0.1.0"

def runSchema : String :=
  "lisa.test_run@0.1.0"

def json : Message → Json
  | record m => .obj [
      ("type", .str "test_result"),
      ("schema_version", .str recordSchema),
      ("id", .str m.id),
      ("name", .str m.name),
      ("status", .str m.status.name),
      ("elapsed", .thousandths m.elapsed),
      ("message", .str m.text),
      ("information", m.facts.json)]
  | run m => .obj [
      ("type", .str "test_run"),
      ("schema_version", .str runSchema),
      ("run_name", .str m.run),
      ("status", .str m.status.name),
      ("elapsed", .thousandths m.elapsed),
      ("message", .str m.text)]

def record? : Message → Option RecordMessage
  | record m => some m
  | run _ => none

end Message

end Testbed
