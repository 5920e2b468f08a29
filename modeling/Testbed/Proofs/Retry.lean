import Testbed.Proofs.Journal
import Testbed.Retry

/-! # The tries of a step

A step under a retry policy is tried until it succeeds or the policy is
exhausted. The tries are a list of stretches, each from the world that the
pause after the one before it has left; the last of them is what the whole
comes to, and apart from log lines the journal is made of theirs.
-/

namespace Testbed

namespace Retry

variable {σ α ε : Type}

/-- The stretches of a step that is tried until it succeeds, `n` times at most. -/
def tries (delay : Nat) (step : Task σ (Except ε α)) : Nat → World σ → List (Stretch σ (Except ε α))
  | 0, _ => []
  | n + 1, w =>
    let s := step.run w
    s :: match s.value with
      | .ok _ => []
      | .error _ => tries delay step n { s.world with now := s.world.now + delay }

theorem run_attemptFrom (p : Policy) (what : String) (text : ε → String)
    (step : Task σ (Except ε α)) (n : UInt32) (w : World σ) :
    (attemptFrom p what text step n).run w =
      let first := step.run w
      match first.value with
      | .ok _ => first
      | .error e =>
        if n < p.bound then
          let rest := (attemptFrom p what text step (n + 1)).run
            { first.world with now := first.world.now + p.delay }
          ⟨rest.value, first.journal ++ .line ⟨.debug, logTarget,
            s!"{what} failed (attempt {n}/{p.bound}): {text e}"⟩ :: rest.journal, rest.world⟩
        else first := by
  rw [attemptFrom, Task.run_bind]
  obtain ⟨value, journal, world⟩ := step.run w
  cases value with
  | ok a => simp
  | error e => by_cases hn : n < p.bound <;> simp [hn]

/-- The last try decides, and only log lines stand between the journals of the tries. -/
theorem attemptFrom_eq_tries (p : Policy) (what : String) (text : ε → String)
    (step : Task σ (Except ε α)) (k : Nat) (n : UInt32) (hn : n.toNat + k = p.bound.toNat)
    (w : World σ) :
    let run := (attemptFrom p what text step n).run w
    ∃ last, (tries p.delay step (k + 1) w).getLast? = some last ∧
      run.value = last.value ∧ run.world = last.world ∧
      run.journal.events = (tries p.delay step (k + 1) w).flatMap (·.journal.events) := by
  induction k generalizing n w with
  | zero =>
    have hlt : ¬ n < p.bound := by
      rw [UInt32.lt_iff_toNat_lt]
      omega
    rw [run_attemptFrom, tries]
    obtain ⟨value, journal, world⟩ := step.run w
    cases value <;> simp [hlt, tries]
  | succ k ih =>
    have hlt : n < p.bound := by
      rw [UInt32.lt_iff_toNat_lt]
      omega
    have hn' : (n + 1).toNat + k = p.bound.toNat := by
      rw [toNat_add_one hlt]
      omega
    rw [run_attemptFrom, tries]
    obtain ⟨value, journal, world⟩ := step.run w
    cases value with
    | ok a => simp
    | error e =>
      obtain ⟨last, hlast, hv, hw, hj⟩ := ih (n + 1) hn' { world with now := world.now + p.delay }
      exact ⟨last, by simp [List.getLast?_cons, hlast], by simp [hlt, hv], by simp [hlt, hw],
        by simp [hlt, hj]⟩

/-- A step under a policy is tried at most as often as the policy allows. -/
theorem call_eq_tries (p : Policy) (what : String) (text : ε → String)
    (step : Task σ (Except ε α)) (w : World σ) :
    let run := (call p what text step).run w
    ∃ last, (tries p.delay step p.bound.toNat w).getLast? = some last ∧
      run.value = last.value ∧ run.world = last.world ∧
      run.journal.events = (tries p.delay step p.bound.toNat w).flatMap (·.journal.events) := by
  have h1 : 1 ≤ p.bound.toNat := UInt32.le_iff_toNat_le.mp p.one_le_bound
  have h := attemptFrom_eq_tries p what text step (p.bound.toNat - 1) 1
    (by change 1 + _ = _; omega) w
  rwa [Nat.sub_add_cancel h1] at h

end Retry

end Testbed
