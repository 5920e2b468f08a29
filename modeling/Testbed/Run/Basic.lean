import Testbed.Registry.Basic
import Testbed.Run.RecordId
import Testbed.Suite.Run

/-! # Running a selection

Every selected case gets a record for each iteration. The records are grouped by
suite, the suites in the order in which the selection names them first. Records
whose requirement the environment does not meet are left out with an
explanation, the others are run suite by suite, and at the end all of them are
put back in the order of the selection.
-/

namespace Testbed

variable {σ : Type}

namespace Run

def logTarget : String :=
  "lisa::runner"

structure Settings where
  runName : String
  retries : UInt32 := 0
  times : UInt32 := 1
  ignoreFailure : Bool := false
  /-- The pause between tries, in milliseconds. -/
  delay : Nat := 0
  deriving DecidableEq, Repr

namespace Settings

/-- Every case is run at least once. -/
def iterations (s : Settings) : UInt32 :=
  if s.times = 0 then 1 else s.times

def record (s : Settings) (c : Case σ) (iteration : Nat) : Record σ where
  id := recordId s.runName c.fullName iteration
  testCase := c
  selectAction := "include"
  times := s.iterations
  retries := s.retries
  ignoreFailure := s.ignoreFailure

/-- The records of a selection, by case and then by iteration. -/
def records (s : Settings) (cases : List (Case σ)) : List (Record σ) :=
  cases.flatMap fun c => (List.range s.iterations.toNat).map (s.record c)

end Settings

/-- The records by the suite that their case names, in the order in which suites first appear. -/
def groups (records : List (Record σ)) : List (String × List (Record σ)) :=
  (records.map (·.testCase.suiteName)).eraseDups.map fun suite =>
    (suite, records.filter (·.testCase.suiteName = suite))

/-- Gives each identifier the number of different ones known when it was last met, which is its
position if none comes twice. -/
def positions (ids : List String) : List (String × Nat) :=
  ids.foldl (fun found id => (id, found.length) :: found.filter (·.1 ≠ id)) []

/-- Puts records in the order of the identifiers, and leaves equals as they are. -/
def inOrder (ids : List String) (records : List (Record σ)) : List (Record σ) :=
  let found := positions ids
  let placed := records.map fun r => ((found.lookup r.id).getD ids.length, r)
  (placed.mergeSort fun a b => a.1 ≤ b.1).map (·.2)

inductive Error where
  | unknownSuite (name : String)
  deriving DecidableEq, Repr

def Error.message : Error → String
  | unknownSuite name => s!"unknown test suite: {name}"

def announce (runName : String) (status : RunStatus) (elapsed : Nat) : Task σ Unit := do
  Task.log .info logTarget s!"test run '{runName}' {status.name}"
  Task.note (.message (.run ⟨runName, status, elapsed, ""⟩))

/-- Binds a record to the environment, and leaves it out if the requirement is not met. -/
def gate (e : Environment σ) (r : Record σ) : Task σ (Record σ) := do
  let (met, r) ← (r.bind e).check e true
  if met then pure r
  else r.set .skipped s!"no available environment: {r.explain}"

/-- Runs the records of one suite that can run; the others follow them. -/
def runGroup (delay : Nat) (suite : Suite σ) (e : Environment σ) (records : List (Record σ)) :
    Task σ (List (Record σ) × Environment σ) := do
  let records ← records.mapM (gate e)
  let (runnable, gated) := records.partition (·.canRun)
  if runnable.isEmpty then
    Task.log .info logTarget s!"suite '{suite.name}' has no runnable case"
    pure (gated, e)
  else
    Task.log .info logTarget
      s!"running suite '{suite.name}' with {runnable.length} case(s) on '{e.name}'"
    let (outcome, ran, e) ← suite.run delay e runnable
    match outcome.setupError with
    | some text => Task.log .warn logTarget s!"suite '{suite.name}': {text}"
    | none => pure ()
    pure (ran ++ gated, e)

def runGroups (catalogue : Catalogue σ) (delay : Nat) (e : Environment σ) :
    List (String × List (Record σ)) → Task σ (Except Error (List (Record σ)) × Environment σ)
  | [] => pure (.ok [], e)
  | (name, records) :: rest =>
    match catalogue.suite? name with
    | none => pure (.error (.unknownSuite name), e)
    | some suite => do
      let (ran, e) ← runGroup delay suite e records
      let (others, e) ← runGroups catalogue delay e rest
      pure (others.map (ran ++ ·), e)

/-- Tells how the run ended. -/
def finish (settings : Settings) (began : Nat) (records : List (Record σ)) : Task σ Unit := do
  let completed := (records.filter (·.status.isCompleted)).length
  Task.log .info logTarget s!"{completed} of {records.length} case record(s) completed"
  let status := if records.any (·.status = .failed) then RunStatus.failed else .success
  announce settings.runName status ((← Task.now) - began)

/-- Runs cases over an environment, and hands over their records and the environment. -/
def runCases (catalogue : Catalogue σ) (cases : List (Case σ)) (settings : Settings)
    (e : Environment σ) : Task σ (Except Error (List (Record σ)) × Environment σ) := do
  let began ← Task.now
  announce settings.runName .initializing 0
  let records ← (settings.records cases).mapM Record.start
  announce settings.runName .running 0
  let (result, e) ← runGroups catalogue settings.delay e (groups records)
  match result with
  | .error cause => pure (.error cause, e)
  | .ok ran => do
    let ran := inOrder (records.map (·.id)) ran
    finish settings began ran
    pure (.ok ran, e)

end Run

end Testbed
