import Testbed.Builtin.Basic
import Testbed.CommandLine.Command
import Testbed.Environment.Local
import Testbed.Notifier
import Testbed.Report.Delivery
import Testbed.Report.Listing
import Testbed.Text.Path

/-! # Sessions

One use of the program: a command line leads to lines of a log, to a text on
standard output, perhaps to a file, and to an exit code.
-/

namespace Testbed.Session

/-- What the built-in suites remember in a session. -/
structure Counters where
  casesSeen : Nat := 0
  attempts : Nat := 0
  deriving DecidableEq, Repr, Inhabited

def memory : Builtin.Memory Counters where
  casesSeen := ⟨Counters.casesSeen, fun n s => { s with casesSeen := n }⟩
  attempts := ⟨Counters.attempts, fun n s => { s with attempts := n }⟩

/-- What a session starts from. -/
structure Setting where
  arguments : List String
  host : Host Counters
  /-- Which lines a log filter lets through, if its text can be read. -/
  readFilter : String → Option (Log.Line → Bool)
  logFilter : Option String := none
  directory : String := ""
  /-- In milliseconds since the beginning of 1970. -/
  startedAt : Nat := 0

namespace Setting

/-- The messages of the run stay visible. -/
def defaultFilter : String :=
  "warn,lisa::notifier=info"

/-- Whether a line is let through. What the surroundings ask for counts unless everything is
wanted, and if it cannot be read the default does. -/
def permits (setting : Setting) (verbose : Bool) : Log.Line → Bool :=
  let given := setting.logFilter.bind setting.readFilter
  let filter := if verbose then setting.readFilter "debug"
    else given.or (setting.readFilter defaultFilter)
  filter.getD fun _ => true

end Setting

inductive Ending where
  | usage (error : CommandLine.UsageError)
  | printed (output : String)
  | failed (trouble : Trouble)
  | delivery (delivery : Delivery)

structure Plan where
  log : List Log.Line
  ending : Ending

def usageText : String :=
  "Run test suites against the local machine.\n\n" ++
  "Usage: lisa [--verbose] <list|check|run> [options]\n"

def versionText : String :=
  s!"{Tool.current.name} {Tool.current.version}\n"

def unlines (lines : List String) : String :=
  String.join (lines.map (· ++ "\n"))

def listOutput (catalogue : Catalogue Counters) (selection : Selection) (json : Bool) : String :=
  let cases := selection.select catalogue
  if json then (Listing.json cases).render ++ "\n" else unlines (cases.map Listing.line)

/-- Whether a case can be run here, and if not why. -/
def checkLine (e : Environment Counters) (c : Case Counters) : String :=
  let finding := c.requirement.check e true
  if finding.met then s!"ok\t{c.fullName}" else s!"unmet\t{c.fullName}\t{finding.explain}"

def checkOutput (catalogue : Catalogue Counters) (selection : Selection)
    (e : Environment Counters) : String :=
  unlines <|
    s!"registry: {catalogue.suites.length} suites, {catalogue.cases.length} cases" ::
      (selection.select catalogue).map (checkLine e)

/-- Runs the selected cases; nothing to run is an error. -/
def runSelection (setting : Setting) (catalogue : Catalogue Counters) (selection : Selection)
    (options : CommandLine.RunOptions) : Plan :=
  match selection.select catalogue with
  | [] => ⟨[], .failed ⟨["no test case matches the selection"]⟩⟩
  | cases =>
    let settings : Run.Settings := {
      runName := options.runName.getD s!"lisa-{setting.startedAt}"
      retries := options.retries
      times := options.times
      ignoreFailure := options.ignoreFailure
      delay := options.delay }
    let e := setting.host.environment options.os
    let done := (Run.runCases catalogue cases settings e).run ⟨{}, 0⟩
    let log := setting.host.remark options.os :: Notifier.logging.lines done.journal
    match done.value.1 with
    | .error cause => ⟨log, .failed ⟨[cause.message]⟩⟩
    | .ok records =>
      let invocation : Report.Invocation := {
        arguments := Tool.current.name :: setting.arguments
        directory := setting.directory
        startedAt := setting.startedAt
        runName := settings.runName
        environment := e.name
        retries := options.retries
        times := options.times
        ignoreFailure := options.ignoreFailure }
      let report := Report.ofRecords invocation done.world.now records done.world.now
      ⟨log, .delivery (report.delivery options.reportPath options.json)⟩

def perform (setting : Setting) (request : CommandLine.Request) : Plan :=
  match Builtin.load memory with
  | .error e => ⟨[], .failed ⟨[e.message]⟩⟩
  | .ok catalogue =>
    match request.command with
    | .list selection json => ⟨[], .printed (listOutput catalogue selection json)⟩
    | .check selection os =>
      ⟨[setting.host.remark os],
        .printed (checkOutput catalogue selection (setting.host.environment os))⟩
    | .run selection options => runSelection setting catalogue selection options

/-- What a session comes to, with the lines that are let through. What is logged first is the
registration of the built-in suites. -/
def plan (setting : Setting) : Plan :=
  match CommandLine.read false setting.arguments with
  | .error .help => ⟨[], .printed usageText⟩
  | .error .version => ⟨[], .printed versionText⟩
  | .error (.usage e) => ⟨[], .usage e⟩
  | .ok request =>
    let plan := perform setting request
    let log := (Registry.addAll {} (Builtin.items memory)).log ++ plan.log
    { plan with log := log.filter (setting.permits request.verbose) }

/-- What is asked of the disk. -/
structure Disk (m : Type → Type) where
  /-- Makes a directory together with those that it lies in, as far as they are not there. -/
  makeAll : String → ExceptT String m Unit
  write : String → String → ExceptT String m Unit

/-- What is seen of a session in the end. -/
structure Outcome where
  exitCode : Nat
  output : String := ""
  /-- What else than lines of the log is seen beside the output. -/
  notes : List String := []

/-- A command line that makes no sense, and a session that fails, have an exit code of their own. -/
def Outcome.failed (note : String) : Outcome where
  exitCode := 2
  notes := [note]

section CarryOut

variable {m : Type → Type} [Monad m] (disk : Disk m)

/-- Says of a fault what was being done to which path. -/
def attempt (doing path : String) (action : ExceptT String m Unit) : ExceptT Trouble m Unit :=
  action.adapt fun fault => ⟨[s!"{doing}: {path}", fault]⟩

/-- Writes a file together with the directory that it lies in; a bare name lies in none. -/
def save (path text : String) : ExceptT Trouble m Unit := do
  if let some directory := (Path.parent? path).filter (!·.isEmpty) then
    attempt "create report dir" directory (disk.makeAll directory)
  attempt "write report" path (disk.write path text)

def deliver (d : Delivery) : m Outcome := do
  match d.file with
  | none => pure ⟨d.exitCode, d.output, []⟩
  | some (path, text) =>
    match ← (save disk path text).run with
    | .error trouble => pure (.failed trouble.message)
    | .ok _ => pure ⟨d.exitCode, d.output, [d.note]⟩

def Ending.carryOut : Ending → m Outcome
  | .usage e => pure (.failed e.message)
  | .printed output => pure ⟨0, output, []⟩
  | .failed trouble => pure (.failed trouble.message)
  | .delivery d => deliver disk d

end CarryOut

end Testbed.Session
