import Testbed.Builtin.HelloWorld
import Testbed.Builtin.Selftest

/-! # The suites that are always there -/

namespace Testbed.Builtin

variable {σ : Type}

/-- What the built-in suites remember. -/
structure Memory (σ : Type) where
  casesSeen : Slot σ Nat
  attempts : Slot σ Nat

def items (memory : Memory σ) : List (Registry.Item σ) :=
  HelloWorld.items memory.casesSeen ++ Selftest.items memory.attempts

/-- The catalogue of the built-in suites. -/
def load (memory : Memory σ) : Except Registry.Error (Catalogue σ) :=
  let outcome := Registry.addAll {} (items memory)
  match outcome.error with
  | some e => .error e
  | none => outcome.registry.freeze

end Testbed.Builtin
