import Testbed.Environment.Stage
import Testbed.Os.Basic

/-! # Choices

A value that is chosen by one of a fixed list of names.
-/

namespace Testbed.CommandLine

structure Choice (α : Type) where
  values : List α
  name : α → String

namespace Choice

variable {α : Type}

def os : Choice Os :=
  ⟨Os.all, Os.name⟩

def stage : Choice Stage :=
  ⟨Stage.all, Stage.name⟩

structure Invalid where
  text : String

def Invalid.message (e : Invalid) : String :=
  s!"invalid variant: {e.text}"

/-- Finds the value with the given name, which may differ in ASCII case if case is ignored. -/
def pick (c : Choice α) (text : String) (ignoreCase : Bool) : Except Invalid α :=
  match c.values.find? fun v =>
    if ignoreCase then (c.name v).toLower = text.toLower else c.name v = text with
  | some v => .ok v
  | none => .error ⟨text⟩

end Choice

end Testbed.CommandLine
