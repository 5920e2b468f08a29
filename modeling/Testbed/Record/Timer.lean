/-! # Timers

The time that a record has spent running, in milliseconds. Moments are read from
a clock that is passed in.
-/

namespace Testbed

structure Timer where
  /-- The time of the stretches that are over. -/
  total : Nat := 0
  /-- When the present stretch began, if the timer runs. -/
  started : Option Nat := none
  deriving DecidableEq, Repr, Inhabited

namespace Timer

def elapsed (t : Timer) (now : Nat) : Nat :=
  match t.started with
  | some start => t.total + (now - start)
  | none => t.total

def start (t : Timer) (now : Nat) : Timer :=
  { t with started := some now }

def stop (t : Timer) (now : Nat) : Timer :=
  ⟨t.elapsed now, none⟩

@[simp] theorem elapsed_stop (t : Timer) (now later : Nat) :
    (t.stop now).elapsed later = t.elapsed now := rfl

end Timer

end Testbed
