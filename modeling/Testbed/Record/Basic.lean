import Testbed.Environment.Match
import Testbed.Record.Message
import Testbed.Record.Timer
import Testbed.Task

/-! # Records

The record of one selected case in one iteration of a run: its status, the log
of what happened to it, and what is known about its environment. Each time a
status is set the record is announced by a message, so whoever listens always
knows its present state.
-/

namespace Testbed

variable {σ : Type}

structure Record (σ : Type) where
  id : String
  testCase : Case σ
  selectAction : String := ""
  times : UInt32 := 1
  retries : UInt32 := 0
  newEnvironment : Bool := false
  ignoreFailure : Bool := false
  environmentName : String := ""
  status : Status := .notRun
  timer : Timer := {}
  /-- The texts that came with statuses, oldest first, one to a line. -/
  log : String := ""
  facts : Facts := .empty
  environmentFacts : Facts := .empty
  /-- What the thorough checks of environments have found. -/
  finding : Option Finding := none

/-- Appends a text on a line of its own; an empty text is not a line. -/
def appendLine (log text : String) : String :=
  if text.isEmpty then log else if log.isEmpty then text else s!"{log}\n{text}"

/-- The status that an interrupt leads to, and the text that goes with it. Only a plain failure
can be ignored. -/
def Interrupt.verdict (i : Interrupt) (ignoreFailure : Bool) (phase : String) : Status × String :=
  let lead := if phase.isEmpty then "" else s!"{phase} "
  match i.kind with
  | .skipped => (.skipped, s!"{lead}skipped: {i.detail}")
  | .notRun => (.notRun, s!"{lead}notrun: {i.detail}")
  | .passedWithWarning => (.passed, s!"{lead}warning: {i.detail}")
  | .failed =>
    if ignoreFailure then (.attempted, s!"{lead}{i.detail}")
    else (.failed, s!"{lead}failed: {i.detail}")

/-- The log line that tells of an interrupt. -/
def Interrupt.remark (i : Interrupt) (ignoreFailure : Bool) : Log.Level × String :=
  match i.kind with
  | .skipped => (.info, s!"case skipped: {i.detail}")
  | .notRun => (.info, s!"case not run: {i.detail}")
  | .passedWithWarning => (.warn, s!"case passed with warning: {i.detail}")
  | .failed =>
    if ignoreFailure then (.info, s!"case failed and ignored: {i.detail}")
    else (.warn, s!"case failed: {i.detail}")

namespace Record

def logTarget : String :=
  "lisa_suite::result"

/-- Longer logs are cut to this many characters in messages. -/
def messageLimit : Nat :=
  2048

def name (r : Record σ) : String :=
  r.testCase.fullName

def canRun (r : Record σ) : Bool :=
  r.status = .notRun

def elapsed (r : Record σ) (now : Nat) : Nat :=
  r.timer.elapsed now

/-- The record as others are told of it. -/
def message (r : Record σ) (now : Nat) : RecordMessage where
  id := r.id
  name := r.name
  status := r.status
  elapsed := r.elapsed now
  text := String.ofList (r.log.toList.take messageLimit)
  facts := r.environmentFacts.extend r.facts

def announce (r : Record σ) : Task σ Unit := do
  Task.note (.message (.record (r.message (← Task.now))))

/-- A fresh record is announced right away. -/
def start (r : Record σ) : Task σ (Record σ) := do
  r.announce
  pure r

def setFact (r : Record σ) (key value : String) : Record σ :=
  { r with facts := r.facts.insert key value }

/-- Notes the environment that the record is bound to. -/
def bind (r : Record σ) (e : Environment σ) : Record σ :=
  { r with environmentFacts := e.facts, environmentName := e.name }

/-- The time counted is the time in the status `running`. -/
def withStatus (r : Record σ) (status : Status) (text : String) (now : Nat) : Record σ :=
  { r with
    status
    log := appendLine r.log text
    timer :=
      if r.status = status then r.timer
      else if status = .running then r.timer.start now
      else r.timer.stop now }

/-- Sets the status and announces it, also if it stays what it was. -/
def set (r : Record σ) (status : Status) (text : String) : Task σ (Record σ) := do
  (r.withStatus status text (← Task.now)).start

/-- Turns an interrupt into the status that it stands for. -/
def interrupted (r : Record σ) (i : Interrupt) (phase : String) : Task σ (Record σ) := do
  Task.log .debug logTarget s!"'{r.id}' raised {i.kind.name}"
  let (level, text) := i.remark r.ignoreFailure
  Task.log level logTarget text
  let (status, text) := i.verdict r.ignoreFailure phase
  r.set status text

/-- Adds a thorough finding to those of earlier environments. -/
def withFinding (r : Record σ) (found : Finding) (environment : String) : Record σ :=
  { r with finding := some (match r.finding with
      | none => found
      | some earlier => earlier.merge found environment) }

/-- Whether the environment can host the case. A thorough check keeps what it finds. -/
def check (r : Record σ) (e : Environment σ) (thorough : Bool) : Task σ (Bool × Record σ) := do
  let found := r.testCase.requirement.check e thorough
  Task.log .debug logTarget s!"check '{r.name}' on environment '{e.name}': {found.text}"
  pure (found.met, if thorough then r.withFinding found e.name else r)

/-- The reasons of all thorough checks so far. -/
def explain (r : Record σ) : String :=
  (r.finding.map Finding.explain).getD ""

end Record

end Testbed
