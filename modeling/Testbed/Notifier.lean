import Testbed.Journal

/-! # Notifiers

Where messages go: nowhere, into a list that can be looked at afterwards, or
into the log as lines of JSON.
-/

namespace Testbed

inductive Notifier where
  | silent
  | collecting
  | logging
  deriving DecidableEq, Repr

namespace Notifier

def logTarget : String :=
  "lisa::notifier"

def line (m : Message) : Log.Line :=
  ⟨.info, logTarget, m.json.render⟩

/-- The messages that are kept, in order. -/
def kept (n : Notifier) (j : Journal) : List Message :=
  match n with
  | collecting => j.messages
  | silent | logging => []

/-- The lines of a log, where messages appear if they go there. -/
def lines (n : Notifier) (j : Journal) : List Log.Line :=
  j.filterMap fun entry =>
    match n, entry with
    | _, .line l => some l
    | logging, .message m => some (line m)
    | _, _ => none

end Notifier

/-- What one pass over messages about records gathers. -/
structure Gathered where
  /-- The identifiers, in the order in which they were first met. -/
  order : List String := []
  /-- The last message under each identifier. -/
  found : List (String × RecordMessage) := []

namespace Gathered

/-- One more message takes the place of any earlier one under its identifier. -/
def gather (g : Gathered) (m : RecordMessage) : Gathered where
  order := if (g.found.lookup m.id).isSome then g.order else g.order ++ [m.id]
  found := (m.id, m) :: g.found.filter (·.1 ≠ m.id)

/-- Takes out what is found under one identifier after the other. -/
def drain : List String → List (String × RecordMessage) → List RecordMessage
  | [], _ => []
  | id :: order, found =>
    match found.lookup id with
    | some m => m :: drain order (found.filter (·.1 ≠ id))
    | none => drain order found

end Gathered

/-- The last message of each record, in the order in which the records first appeared. -/
def latest (messages : List Message) : List RecordMessage :=
  let gathered := (messages.filterMap Message.record?).foldl Gathered.gather {}
  Gathered.drain gathered.order gathered.found

end Testbed
