import Testbed.Run.Basic

/-! # Reports

The account of a run: how it was started, how many records ended in which way,
and each record's result in order. Its exit code says whether any record failed.
-/

namespace Testbed

variable {σ : Type}

structure Tool where
  name : String
  version : String
  deriving DecidableEq, Repr

def Tool.current : Tool :=
  ⟨"lisa", "0.1.0"⟩

def Tool.json (t : Tool) : Json :=
  .obj [("name", .str t.name), ("version", .str t.version)]

namespace Report

structure Invocation where
  arguments : List String := []
  directory : String := ""
  /-- In milliseconds since the beginning of 1970. -/
  startedAt : Nat := 0
  runName : String
  environment : String
  retries : UInt32
  times : UInt32
  ignoreFailure : Bool
  deriving DecidableEq, Repr

def Invocation.json (i : Invocation) : Json :=
  .obj [
    ("argv", Json.strs i.arguments),
    ("cwd", .str i.directory),
    ("started_at_unix_ms", .int i.startedAt),
    ("run_name", .str i.runName),
    ("environment", .str i.environment),
    ("retry", .int i.retries.toNat),
    ("times", .int i.times.toNat),
    ("ignore_failure", .bool i.ignoreFailure)]

structure Summary where
  passed : Nat := 0
  failed : Nat := 0
  skipped : Nat := 0
  attempted : Nat := 0
  notRun : Nat := 0
  deriving DecidableEq, Repr

namespace Summary

/-- Counts one more record. A record that is still running has not been run. -/
def add (s : Summary) : Status → Summary
  | .passed => { s with passed := s.passed + 1 }
  | .failed => { s with failed := s.failed + 1 }
  | .skipped => { s with skipped := s.skipped + 1 }
  | .attempted => { s with attempted := s.attempted + 1 }
  | .notRun | .running => { s with notRun := s.notRun + 1 }

def ofStatuses (statuses : List Status) : Summary :=
  statuses.foldl add {}

def text (s : Summary) (exitCode : Nat) : String :=
  s!"passed={s.passed} failed={s.failed} skipped={s.skipped} attempted={s.attempted} " ++
    s!"not_run={s.notRun} (exit={exitCode})"

end Summary

structure Result where
  id : String
  name : String
  suite : String
  status : Status
  /-- In milliseconds. -/
  duration : Nat
  log : String
  deriving DecidableEq, Repr

def Result.ofRecord (r : Record σ) (now : Nat) : Result where
  id := r.id
  name := r.name
  suite := r.testCase.suiteName
  status := r.status
  duration := r.elapsed now
  log := r.log

def Result.json (r : Result) : Json :=
  .obj <| [
    ("id", .str r.id),
    ("name", .str r.name),
    ("suite", .str r.suite),
    ("status", .str r.status.name),
    ("duration_ms", .int r.duration)] ++
    Json.field? "message" (if r.log.isEmpty then none else some (.str r.log))

end Report

structure Report where
  invocation : Report.Invocation
  summary : Report.Summary
  /-- In milliseconds. -/
  duration : Nat
  results : List Report.Result

namespace Report

def schema : String :=
  "lisa.run.report@0.1.0"

/-- The report on records at the given moment. -/
def ofRecords (invocation : Invocation) (duration : Nat) (records : List (Record σ))
    (now : Nat) : Report where
  invocation
  summary := .ofStatuses (records.map (·.status))
  duration
  results := records.map (Result.ofRecord · now)

def exitCode (r : Report) : Nat :=
  if r.summary.failed > 0 then 10 else 0

def json (r : Report) : Json :=
  .obj [
    ("schema_version", .str schema),
    ("tool", Tool.current.json),
    ("invocation", r.invocation.json),
    ("summary", .obj [
      ("passed", .int r.summary.passed),
      ("failed", .int r.summary.failed),
      ("skipped", .int r.summary.skipped),
      ("attempted", .int r.summary.attempted),
      ("not_run", .int r.summary.notRun),
      ("duration_ms", .int r.duration)]),
    ("results", .arr (r.results.map Result.json))]

end Report

end Testbed
