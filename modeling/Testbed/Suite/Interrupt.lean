import Testbed.Trouble

/-! # Interrupts

A hook or a body that does not simply succeed raises an interrupt. Leaving a
case out, putting it off and passing it with a caveat are raised like failures.
-/

namespace Testbed

inductive Interrupt.Kind where
  /-- The case cannot apply here. -/
  | skipped
  /-- A later environment may take the case up. -/
  | notRun
  /-- The case passed, and a caveat is to be noted. -/
  | passedWithWarning
  | failed
  deriving DecidableEq, Repr

def Interrupt.Kind.name : Interrupt.Kind → String
  | skipped => "skipped"
  | notRun => "not_run"
  | passedWithWarning => "passed_with_warning"
  | failed => "failed"

structure Interrupt where
  kind : Interrupt.Kind
  detail : String
  deriving DecidableEq, Repr

namespace Interrupt

def skipped (detail : String) : Interrupt :=
  ⟨.skipped, detail⟩

def notRun (detail : String) : Interrupt :=
  ⟨.notRun, detail⟩

def passedWithWarning (detail : String) : Interrupt :=
  ⟨.passedWithWarning, detail⟩

def failed (detail : String) : Interrupt :=
  ⟨.failed, detail⟩

/-- Any trouble outside counts as a failure. -/
def ofTrouble (t : Trouble) : Interrupt :=
  failed t.message

end Interrupt

end Testbed
