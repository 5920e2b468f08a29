import Testbed.Log
import Testbed.Record.Message
import Testbed.Suite.Basic

/-! # Journals

Everything a run does that can be seen from outside, in order: the calls of
hooks and bodies, requests to stop, log lines and messages.
-/

namespace Testbed

inductive Call.Target where
  | hook (hook : Hook)
  | body
  deriving DecidableEq, Repr

def Call.Target.name : Call.Target → String
  | .hook h => h.name
  | .body => "body"

/-- One call of a hook or a body, and how it ended. -/
structure Call where
  suite : String
  target : Call.Target
  caseName : String
  /-- Whether the environment was still new. -/
  isNew : Bool
  interrupt : Option Interrupt
  deriving DecidableEq, Repr

inductive Entry where
  /-- A suite object was made. -/
  | created (suite : String)
  /-- The environment was marked as used. -/
  | used (suite : String)
  | call (call : Call)
  | stop
  | line (line : Log.Line)
  | message (message : Message)
  deriving DecidableEq, Repr

abbrev Journal : Type :=
  List Entry

namespace Entry

def call? : Entry → Option Call
  | call c => some c
  | _ => none

def line? : Entry → Option Log.Line
  | line l => some l
  | _ => none

def message? : Entry → Option Message
  | message m => some m
  | _ => none

end Entry

namespace Journal

def calls (j : Journal) : List Call :=
  j.filterMap Entry.call?

def lines (j : Journal) : List Log.Line :=
  j.filterMap Entry.line?

def messages (j : Journal) : List Message :=
  j.filterMap Entry.message?

def recordMessages (j : Journal) : List RecordMessage :=
  j.messages.filterMap Message.record?

/-- Whether a hook or a body has asked to stop. -/
def stopped (j : Journal) : Bool :=
  j.contains .stop

@[simp] theorem calls_append (a b : Journal) :
    calls (a ++ b) = a.calls ++ b.calls := List.filterMap_append

@[simp] theorem lines_append (a b : Journal) :
    lines (a ++ b) = a.lines ++ b.lines := List.filterMap_append

@[simp] theorem messages_append (a b : Journal) :
    messages (a ++ b) = a.messages ++ b.messages := List.filterMap_append

@[simp] theorem stopped_append (a b : Journal) :
    stopped (a ++ b) = (a.stopped || b.stopped) := by
  simp [stopped]

end Journal

end Testbed
