import Testbed.Task

/-! # Retries

A step that may fail is tried until it succeeds or the tries are used up, with a
pause between tries. The last error counts.
-/

namespace Testbed.Retry

structure Policy where
  tries : UInt32
  /-- The pause between two tries, in milliseconds. -/
  delay : Nat := 0
  deriving DecidableEq, Repr

namespace Policy

/-- So many tries on top of the first one, as far as a word can hold them. -/
def ofRetries (retries : UInt32) (delay : Nat) : Policy :=
  ⟨if retries = 0xffffffff then retries else retries + 1, delay⟩

/-- The number of tries at most; a step is always tried once. -/
def bound (p : Policy) : UInt32 :=
  if p.tries = 0 then 1 else p.tries

theorem one_le_bound (p : Policy) : 1 ≤ p.bound := by
  unfold bound
  split
  · decide
  · rename_i h
    rw [UInt32.le_iff_toNat_le]
    have : p.tries.toNat ≠ 0 := fun h0 => h (UInt32.toNat_inj.mp h0)
    have : (1 : UInt32).toNat = 1 := rfl
    omega

theorem toNat_tries_ofRetries (retries : UInt32) (delay : Nat) :
    (ofRetries retries delay).tries.toNat = min (retries.toNat + 1) (UInt32.size - 1) := by
  have := retries.toNat_lt
  have : UInt32.size = 4294967296 := rfl
  unfold ofRetries
  split
  · rename_i h
    subst h
    rfl
  · rename_i h
    have : retries.toNat ≠ UInt32.size - 1 := fun h0 => h (UInt32.toNat_inj.mp h0)
    have : (1 : UInt32).toNat = 1 := rfl
    simp only [UInt32.toNat_add]
    omega

end Policy

def logTarget : String :=
  "lisa_suite::retry"

theorem toNat_add_one {n bound : UInt32} (h : n < bound) : (n + 1).toNat = n.toNat + 1 := by
  have := UInt32.lt_iff_toNat_lt.mp h
  have := bound.toNat_lt
  have : (1 : UInt32).toNat = 1 := rfl
  rw [UInt32.toNat_add]
  omega

variable {σ α ε : Type}

/-- The tries from number `n` on. The number stays below the bound when it is raised, so it never
wraps. -/
def attemptFrom (p : Policy) (what : String) (text : ε → String) (step : Task σ (Except ε α))
    (n : UInt32) : Task σ (Except ε α) := do
  match ← step with
  | .ok a => pure (.ok a)
  | .error e =>
    if _h : n < p.bound then
      Task.log .debug logTarget s!"{what} failed (attempt {n}/{p.bound}): {text e}"
      Task.wait p.delay
      attemptFrom p what text step (n + 1)
    else
      pure (.error e)
termination_by p.bound.toNat - n.toNat
decreasing_by
  have := toNat_add_one _h
  have := UInt32.lt_iff_toNat_lt.mp _h
  omega

/-- Tries a step under a policy. The text of an error is logged before each further try. -/
def call (p : Policy) (what : String) (text : ε → String) (step : Task σ (Except ε α)) :
    Task σ (Except ε α) :=
  attemptFrom p what text step 1

end Testbed.Retry
