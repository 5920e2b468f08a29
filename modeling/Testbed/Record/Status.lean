/-! # Statuses

How far a record has come, and how a whole run stands.
-/

namespace Testbed

inductive Status where
  | notRun
  | running
  | failed
  | passed
  | skipped
  /-- Failed, with the failure ignored. -/
  | attempted
  deriving DecidableEq, Repr, Inhabited

namespace Status

def name : Status → String
  | notRun => "NOTRUN"
  | running => "RUNNING"
  | failed => "FAILED"
  | passed => "PASSED"
  | skipped => "SKIPPED"
  | attempted => "ATTEMPTED"

/-- The name inside a description of a record. -/
def label : Status → String
  | notRun => "NotRun"
  | running => "Running"
  | failed => "Failed"
  | passed => "Passed"
  | skipped => "Skipped"
  | attempted => "Attempted"

def all : List Status :=
  [notRun, running, failed, passed, skipped, attempted]

def ofName? (name : String) : Option Status :=
  all.find? fun status => status.name = name

def isCompleted : Status → Bool
  | notRun | running => false
  | failed | passed | skipped | attempted => true

end Status

inductive RunStatus where
  | initializing
  | running
  | success
  | failed
  deriving DecidableEq, Repr, Inhabited

def RunStatus.name : RunStatus → String
  | initializing => "INITIALIZING"
  | running => "RUNNING"
  | success => "SUCCESS"
  | failed => "FAILED"

end Testbed
