import Testbed.Record.Basic
import Testbed.Retry

/-! # Running a suite

One suite object drives the records of its cases over an environment. The hooks
around the suite are called once; each record gets the hooks around its case and
the body, each of them tried again as often as the record says. Interrupts never
leave the run: they end up in the records, and a request to stop keeps the next
record from starting.
-/

namespace Testbed

variable {σ : Type}

namespace Suite

def logTarget : String :=
  "lisa_suite::suite"

/-- A span in seconds, to three digits. -/
def seconds (milliseconds : Nat) : String :=
  let rest := milliseconds % 1000
  s!"{milliseconds / 1000}.{rest / 100}{rest / 10 % 10}{rest % 10}"

/-- A span in seconds if it is one or longer, else in milliseconds, without zeros behind the last
digit that counts. -/
def span (milliseconds : Nat) : String :=
  if milliseconds = 0 then "0ns"
  else if milliseconds < 1000 then s!"{milliseconds}ms"
  else
    let digits := (seconds milliseconds).toList.reverse.dropWhile (· = '0')
    String.ofList (digits.dropWhile (· = '.')).reverse ++ "s"

/-- Logs how long the task takes. -/
def timed {α : Type} (what : String) (t : Task σ α) : Task σ α := do
  let began ← Task.now
  let a ← t
  Task.log .debug logTarget s!"{what} end in {span ((← Task.now) - began)}"
  pure a

/-- What a run of one suite is given. -/
structure Job (σ : Type) where
  suite : String
  hooks : Hooks σ
  environment : Environment σ
  /-- The pause between tries, in milliseconds. -/
  delay : Nat := 0

structure Outcome where
  setupError : Option String
  stopped : Bool
  casesRun : Nat
  deriving DecidableEq, Repr

namespace Job

variable (job : Job σ)

/-- Calls one of the hooks around the whole suite. -/
def suiteHook (hook : Hook) : Task σ (Except Interrupt Unit) :=
  Task.call job.suite (.hook hook) ⟨job.environment, ""⟩ (job.hooks hook)

def retried (r : Record σ) (what : String) (target : Call.Target)
    (action : Context σ → Action σ Unit) : Task σ (Except Interrupt Unit) :=
  Retry.call (.ofRetries r.retries job.delay) what Interrupt.detail
    (Task.call job.suite target ⟨job.environment, r.testCase.name⟩ action)

/-- Calls one of the hooks around a case. -/
def caseHook (r : Record σ) (hook : Hook) : Task σ (Except Interrupt Unit) :=
  job.retried r hook.name (.hook hook) (job.hooks hook)

/-- The setup of a case. If it fails, the body is skipped, and this is the result of the record. -/
def setUp (r : Record σ) : Task σ (Option (Record σ)) := do
  match ← job.caseHook r .beforeCase with
  | .ok _ => pure none
  | .error i =>
    Task.log .error logTarget s!"'{r.name}' before_case: {i.detail}"
    some <$> r.set .skipped s!"before_case: {i.detail}"

/-- The body, and the status that its last try leads to. -/
def runBody (r : Record σ) : Task σ (Record σ) := do
  match ← job.retried r r.name .body r.testCase.body with
  | .ok _ => r.set .passed ""
  | .error i => r.interrupted i ""

/-- The case proper: a failed setup of the suite or of the case skips the body. -/
def runCase (setupError : Option String) (r : Record σ) : Task σ (Record σ) := do
  match setupError with
  | some text => r.set .skipped text
  | none =>
    match ← timed "before_case" (job.setUp r) with
    | some r => pure r
    | none => timed "case" (job.runBody r)

def cleanUp (r : Record σ) : Task σ Unit := do
  match ← job.caseHook r .afterCase with
  | .ok _ => pure ()
  | .error i => Task.log .error logTarget s!"'{r.name}' after_case failed: {i.detail}"

/-- One record from its start to its result. -/
def runRecord (setupError : Option String) (r : Record σ) : Task σ (Record σ) := do
  let r := r.bind job.environment
  Task.log .info logTarget s!"test case '{r.name}' is running"
  let began ← Task.now
  let r ← r.set .running ""
  let r ← job.runCase setupError r
  timed "after_case" (job.cleanUp r)
  let took := (← Task.now) - began
  Task.log .info logTarget s!"result: {r.status.name}, elapsed: {seconds took}s"
  pure r

/-- The records in order, up to the first one at the end of which a stop has been asked for, now
or before the first record. Counts the records that were run. -/
def runRecords (setupError : Option String) (stopAsked : Bool) :
    List (Record σ) → Task σ (List (Record σ) × Nat × Bool)
  | [] => pure ([], 0, false)
  | r :: rest => do
    let (r, journal) ← (job.runRecord setupError r).listen
    if stopAsked || journal.stopped then
      Task.log .info logTarget "received stop message, stop run"
      pure (r :: rest, 1, true)
    else
      let (rest, count, stopped) ← runRecords setupError stopAsked rest
      pure (r :: rest, count + 1, stopped)

/-- The setup of the suite, and the text that it leaves in every record if it fails. -/
def setUpSuite : Task σ (Option String) := do
  match ← job.suiteHook .beforeSuite with
  | .ok _ => pure none
  | .error i =>
    Task.log .warn logTarget s!"suite '{job.suite}' before_suite failed: {i.detail}"
    pure (some s!"before_suite: {i.detail}")

def cleanUpSuite : Task σ Unit := do
  match ← job.suiteHook .afterSuite with
  | .ok _ => pure ()
  | .error i => Task.log .warn logTarget s!"suite '{job.suite}' after_suite failed: {i.detail}"

/-- The whole run on an environment that is marked as used. -/
def run (records : List (Record σ)) : Task σ (Outcome × List (Record σ)) := do
  let (setupError, journal) ← (timed "before_suite" job.setUpSuite).listen
  let (records, casesRun, stopped) ← job.runRecords setupError journal.stopped records
  timed "after_suite" job.cleanUpSuite
  pure (⟨setupError, stopped, casesRun⟩, records)

end Job

/-- Runs records with a suite object at hand; the environment is used from then on. -/
def runWith (suite : String) (hooks : Hooks σ) (delay : Nat) (e : Environment σ)
    (records : List (Record σ)) : Task σ (Outcome × List (Record σ) × Environment σ) := do
  Task.note (.used suite)
  let job : Job σ := ⟨suite, hooks, e.markUsed, delay⟩
  let (outcome, records) ← job.run records
  pure (outcome, records, e.markUsed)

/-- Runs records of cases of the suite with a fresh suite object. -/
def run (suite : Suite σ) (delay : Nat) (e : Environment σ) (records : List (Record σ)) :
    Task σ (Outcome × List (Record σ) × Environment σ) := do
  let hooks ← Task.update suite.create
  Task.note (.created suite.name)
  runWith suite.name hooks delay e records

end Suite

end Testbed
