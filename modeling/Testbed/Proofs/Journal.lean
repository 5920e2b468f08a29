import Testbed.Task

/-! # What a journal shows

Log lines tell what a run does a second time, in words. Without them a journal
consists of events: the calls and requests to stop, which are the acts of a
run, and the messages by which others are told of records.
-/

namespace Testbed

namespace Entry

def isLine : Entry → Bool
  | .line _ => true
  | _ => false

def isMessage : Entry → Bool
  | .message _ => true
  | _ => false

/-- The suite that an object was made of. -/
def created? : Entry → Option String
  | .created suite => some suite
  | _ => none

end Entry

namespace Journal

/-- All that a run does and tells, without the log lines. -/
def events (j : Journal) : Journal :=
  j.filter (!·.isLine)

/-- All that a run does. -/
def acts (j : Journal) : Journal :=
  j.filter fun entry => !entry.isLine && !entry.isMessage

/-- The suites that objects were made of, in order. -/
def created (j : Journal) : List String :=
  j.filterMap Entry.created?

@[simp] theorem events_nil : events [] = [] := rfl

@[simp] theorem events_append (a b : Journal) : events (a ++ b) = a.events ++ b.events :=
  List.filter_append ..

@[simp] theorem events_line (l : Log.Line) (j : Journal) : events (.line l :: j) = events j := rfl

@[simp] theorem events_message (m : Message) (j : Journal) :
    events (.message m :: j) = .message m :: events j := rfl

theorem events_lines (lines : List Log.Line) (j : Journal) :
    events (lines.map .line ++ j) = j.events := by
  induction lines with
  | nil => rfl
  | cons l lines ih => exact ih

theorem acts_events (j : Journal) : j.events.acts = j.acts := by
  rw [acts, events, List.filter_filter]
  exact List.filter_congr fun entry _ => by cases entry.isLine <;> simp

@[simp] theorem stopped_events (j : Journal) : j.events.stopped = j.stopped := by
  rw [Bool.eq_iff_iff]
  simp [stopped, events, Entry.isLine]

@[simp] theorem acts_used (suite : String) (j : Journal) :
    acts (.used suite :: j) = .used suite :: acts j := rfl

@[simp] theorem acts_append (a b : Journal) : acts (a ++ b) = a.acts ++ b.acts :=
  List.filter_append ..

theorem acts_flatMap {β : Type} (f : β → Journal) (xs : List β) :
    acts (xs.flatMap f) = xs.flatMap fun x => (f x).acts :=
  List.filter_flatMap

@[simp] theorem calls_used (suite : String) (j : Journal) :
    calls (.used suite :: j) = calls j := rfl

theorem calls_acts (j : Journal) : j.acts.calls = j.calls := by
  rw [calls, calls, acts, List.filterMap_filter]
  congr 1
  funext entry
  cases entry <;> rfl

theorem calls_flatMap {β : Type} (f : β → Journal) (xs : List β) :
    calls (xs.flatMap f) = xs.flatMap fun x => (f x).calls :=
  List.filterMap_flatMap

@[simp] theorem created_created (suite : String) (j : Journal) :
    created (.created suite :: j) = suite :: created j := rfl

@[simp] theorem created_used (suite : String) (j : Journal) :
    created (.used suite :: j) = created j := rfl

@[simp] theorem created_append (a b : Journal) : created (a ++ b) = a.created ++ b.created :=
  List.filterMap_append

@[simp] theorem recordMessages_used (suite : String) (j : Journal) :
    recordMessages (.used suite :: j) = recordMessages j := rfl

@[simp] theorem recordMessages_append (a b : Journal) :
    recordMessages (a ++ b) = a.recordMessages ++ b.recordMessages := by
  simp [recordMessages]

theorem recordMessages_events (j : Journal) : j.events.recordMessages = j.recordMessages := by
  rw [recordMessages, recordMessages, messages, messages, events, List.filterMap_filter]
  congr 2
  funext entry
  cases entry <;> rfl

theorem recordMessages_flatMap {β : Type} (f : β → Journal) (xs : List β) :
    recordMessages (xs.flatMap f) = xs.flatMap fun x => (f x).recordMessages := by
  simp only [recordMessages, messages, List.filterMap_flatMap]

end Journal

namespace Task

variable {σ α β : Type}

@[simp] theorem run_map (f : α → β) (t : Task σ α) (w : World σ) :
    (f <$> t).run w = ⟨f (t.run w).value, (t.run w).journal, (t.run w).world⟩ := by
  rw [map_eq_pure_bind, run_bind]
  simp

end Task

end Testbed
