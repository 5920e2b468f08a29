import Testbed.Proofs.Retry

/-! # How often a step is called

A step that is called without end runs each time in the world which the pause
after the call before has left. A policy cuts this row of calls off at the first
success, or else at its bound, and a retried step comes to what the last call
before the cut does.
-/

namespace Testbed

variable {σ α ε : Type}

namespace World

/-- The world after a pause. -/
def paused (delay : Nat) (w : World σ) : World σ :=
  { w with now := w.now + delay }

/-- The world with a counter next to the state. -/
def withCount (n : Nat) (w : World σ) : World (σ × Nat) :=
  ⟨(w.state, n), w.now⟩

end World

namespace Stretch

def succeeded (s : Stretch σ (Except ε α)) : Bool :=
  match s.value with
  | .ok _ => true
  | .error _ => false

def withCount (n : Nat) (s : Stretch σ α) : Stretch (σ × Nat) α :=
  ⟨s.value, s.journal, s.world.withCount n⟩

@[simp] theorem succeeded_withCount (n : Nat) (s : Stretch σ (Except ε α)) :
    (s.withCount n).succeeded = s.succeeded := rfl

end Stretch

/-- The task with a counter that is raised each time the task is run. -/
def Task.counted (t : Task σ α) : Task (σ × Nat) α := fun w =>
  (t.run ⟨w.state.1, w.now⟩).withCount (w.state.2 + 1)

namespace Retry

/-- The call after `k` others, in a row of calls that goes on whatever comes of them. -/
def nth (delay : Nat) (step : Task σ (Except ε α)) : Nat → World σ → Stretch σ (Except ε α)
  | 0, w => step.run w
  | k + 1, w => nth delay step k ((step.run w).world.paused delay)

/-- The row ends with the call after `k` others: this is the first success, or the last call that
is allowed. -/
structure CutAt (delay : Nat) (step : Task σ (Except ε α)) (bound : Nat) (w : World σ)
    (k : Nat) : Prop where
  failed : ∀ j < k, (nth delay step j w).succeeded = false
  lt : k < bound
  ended : (nth delay step k w).succeeded = true ∨ k + 1 = bound

/-- What is logged when a call has failed and another one follows. -/
def remark (what : String) (text : ε → String) (number bound : Nat)
    (s : Stretch σ (Except ε α)) : Journal :=
  match s.value with
  | .ok _ => []
  | .error e => [.line ⟨.debug, logTarget, s!"{what} failed (attempt {number}/{bound}): {text e}"⟩]

/-- The journal of the first `k` calls of a row. They are numbered from the given number on, and
after each of them is logged that it has failed. -/
def failures (delay bound : Nat) (what : String) (text : ε → String)
    (step : Task σ (Except ε α)) (number k : Nat) (w : World σ) : Journal :=
  (List.range k).flatMap fun j =>
    (nth delay step j w).journal ++ remark what text (number + j) bound (nth delay step j w)

namespace CutAt

variable {delay bound k : Nat} {step : Task σ (Except ε α)} {w : World σ}

theorem zero (hbound : 0 < bound) (h : (step.run w).succeeded = true ∨ bound = 1) :
    CutAt delay step bound w 0 where
  failed := fun _ hj => absurd hj (Nat.not_lt_zero _)
  lt := hbound
  ended := h.imp id Eq.symm

theorem succ (hfailed : (step.run w).succeeded = false)
    (h : CutAt delay step bound ((step.run w).world.paused delay) k) :
    CutAt delay step (bound + 1) w (k + 1) where
  failed
    | 0, _ => hfailed
    | j + 1, hj => h.failed j (Nat.lt_of_succ_lt_succ hj)
  lt := Nat.succ_lt_succ h.lt
  ended := h.ended.imp id (congrArg (· + 1))

/-- A row does not go on behind its end. -/
theorem le {j : Nat} (h : CutAt delay step bound w j) (h' : CutAt delay step bound w k) :
    j ≤ k := by
  rcases Nat.lt_or_ge k j with hlt | hge
  · rcases h'.ended with hsucceeded | hlast
    · rw [h.failed k hlt] at hsucceeded
      cases hsucceeded
    · have := h.lt
      omega
  · exact hge

theorem unique {j : Nat} (h : CutAt delay step bound w j) (h' : CutAt delay step bound w k) :
    j = k :=
  Nat.le_antisymm (h.le h') (h'.le h)

/-- A row that ends with a success ends there too if more calls are allowed. -/
theorem mono (h : CutAt delay step bound w k) (hsucceeded : (nth delay step k w).succeeded = true)
    {more : Nat} (hmore : bound ≤ more) : CutAt delay step more w k where
  failed := h.failed
  lt := Nat.lt_of_lt_of_le h.lt hmore
  ended := .inl hsucceeded

end CutAt

theorem nth_counted (delay : Nat) (step : Task σ (Except ε α)) (k n : Nat) (w : World σ) :
    nth delay step.counted k (w.withCount n) = (nth delay step k w).withCount (n + (k + 1)) := by
  induction k generalizing n w with
  | zero => rfl
  | succ k ih =>
    have hnext := ih (n + 1) ((step.run w).world.paused delay)
    rw [Nat.add_assoc, Nat.add_comm 1] at hnext
    exact hnext

/-- The row ends at the same call if the calls are counted. -/
theorem CutAt.counted {delay bound k : Nat} {step : Task σ (Except ε α)} {w : World σ}
    (h : CutAt delay step bound w k) (n : Nat) :
    CutAt delay step.counted bound (w.withCount n) k where
  failed j hj := by
    rw [nth_counted]
    exact h.failed j hj
  lt := h.lt
  ended := by
    rw [nth_counted]
    exact h.ended

theorem failures_succ (delay bound : Nat) (what : String) (text : ε → String)
    (step : Task σ (Except ε α)) (number k : Nat) (w : World σ) :
    failures delay bound what text step number (k + 1) w =
      (step.run w).journal ++ remark what text number bound (step.run w) ++
        failures delay bound what text step (number + 1) k ((step.run w).world.paused delay) := by
  have hshift (j : Nat) : number + 1 + j = number + (j + 1) := by omega
  simp only [failures, List.range_succ_eq_map, List.flatMap_cons, List.flatMap_map, Nat.add_zero,
    Nat.succ_eq_add_one, hshift]
  rfl

theorem failures_counted (delay bound : Nat) (what : String) (text : ε → String)
    (step : Task σ (Except ε α)) (number k n : Nat) (w : World σ) :
    failures delay bound what text step.counted number k (w.withCount n) =
      failures delay bound what text step number k w := by
  simp only [failures, nth_counted]
  rfl

variable {p : Policy} {what : String} {text : ε → String} {step : Task σ (Except ε α)}
  {n : UInt32} {w : World σ}

theorem attemptFrom_of_ended (h : (step.run w).succeeded = true ∨ ¬ n < p.bound) :
    (attemptFrom p what text step n).run w = step.run w := by
  rw [run_attemptFrom]
  cases hvalue : (step.run w).value with
  | ok a => simp only [hvalue]
  | error e =>
    have hlast : ¬ n < p.bound := h.resolve_left (by simp [Stretch.succeeded, hvalue])
    simp only [hvalue, if_neg hlast]

theorem attemptFrom_of_failed (hfailed : (step.run w).succeeded = false) (hlt : n < p.bound) :
    let rest := (attemptFrom p what text step (n + 1)).run ((step.run w).world.paused p.delay)
    (attemptFrom p what text step n).run w =
      ⟨rest.value, (step.run w).journal ++
        (remark what text n.toNat p.bound.toNat (step.run w) ++ rest.journal), rest.world⟩ := by
  intro rest
  rw [run_attemptFrom]
  cases hvalue : (step.run w).value with
  | ok a => simp [Stretch.succeeded, hvalue] at hfailed
  | error e =>
    simp only [hvalue, if_pos hlt, remark]
    rfl

/-- From call number `n` on, a step is called in a row until the row ends. The number is raised
below the bound only, so it is the one that counting without a limit gives. -/
theorem attemptFrom_eq_row (what : String) (text : ε → String) (step : Task σ (Except ε α))
    (w : World σ) (m : Nat) (hn : n.toNat + m = p.bound.toNat) :
    ∃ k, CutAt p.delay step (m + 1) w k ∧
      (attemptFrom p what text step n).run w =
        ⟨(nth p.delay step k w).value,
          failures p.delay p.bound.toNat what text step n.toNat k w ++
            (nth p.delay step k w).journal,
          (nth p.delay step k w).world⟩ := by
  induction m generalizing n w with
  | zero =>
    have hlast : ¬ n < p.bound := by
      rw [UInt32.lt_iff_toNat_lt]
      omega
    exact ⟨0, .zero Nat.one_pos (.inr rfl), attemptFrom_of_ended (.inr hlast)⟩
  | succ m ih =>
    have hlt : n < p.bound := by
      rw [UInt32.lt_iff_toNat_lt]
      omega
    have hnext : (n + 1).toNat = n.toNat + 1 := toNat_add_one hlt
    cases hfirst : (step.run w).succeeded with
    | true => exact ⟨0, .zero (Nat.succ_pos _) (.inl hfirst), attemptFrom_of_ended (.inl hfirst)⟩
    | false =>
      obtain ⟨k, hcut, hrest⟩ := ih (n := n + 1) ((step.run w).world.paused p.delay) (by omega)
      refine ⟨k + 1, hcut.succ hfirst, ?_⟩
      rw [attemptFrom_of_failed hfirst hlt, hrest, failures_succ, hnext]
      simp only [List.append_assoc]
      rfl

theorem Policy.toNat_bound (p : Policy) : p.bound.toNat = max p.tries.toNat 1 := by
  unfold bound
  split
  · rename_i hzero
    rw [hzero]
    rfl
  · rename_i hne
    have : p.tries.toNat ≠ 0 := fun hzero => hne (UInt32.toNat_inj.mp hzero)
    omega

theorem exists_cutAt (p : Policy) (what : String) (text : ε → String)
    (step : Task σ (Except ε α)) (w : World σ) :
    ∃ k, CutAt p.delay step (max p.tries.toNat 1) w k ∧
      (call p what text step).run w =
        ⟨(nth p.delay step k w).value,
          failures p.delay (max p.tries.toNat 1) what text step 1 k w ++
            (nth p.delay step k w).journal,
          (nth p.delay step k w).world⟩ := by
  have hbound : 1 ≤ p.bound.toNat := UInt32.le_iff_toNat_le.mp p.one_le_bound
  have hfirst : (1 : UInt32).toNat + (p.bound.toNat - 1) = p.bound.toNat :=
    Nat.add_sub_cancel' hbound
  obtain ⟨k, hcut, hrun⟩ := attemptFrom_eq_row what text step w (p.bound.toNat - 1) hfirst
  rw [Nat.sub_add_cancel hbound] at hcut
  rw [p.toNat_bound] at hcut hrun
  exact ⟨k, hcut, hrun⟩

/-- Wherever the row of calls ends, the retried step does. -/
theorem run_call_of_cutAt (what : String) (text : ε → String) {k : Nat}
    (h : CutAt p.delay step (max p.tries.toNat 1) w k) :
    (call p what text step).run w =
      ⟨(nth p.delay step k w).value,
        failures p.delay (max p.tries.toNat 1) what text step 1 k w ++
          (nth p.delay step k w).journal,
        (nth p.delay step k w).world⟩ := by
  obtain ⟨j, hcut, hrun⟩ := exists_cutAt p what text step w
  rwa [hcut.unique h] at hrun

theorem run_call_counted (what : String) (text : ε → String) {k : Nat}
    (h : CutAt p.delay step (max p.tries.toNat 1) w k) (n : Nat) :
    (call p what text step.counted).run (w.withCount n) =
      ((call p what text step).run w).withCount (n + (k + 1)) := by
  rw [run_call_of_cutAt what text (h.counted n), run_call_of_cutAt what text h, nth_counted,
    failures_counted]
  rfl

/-- A retried step is called until it first succeeds, or as often as the policy allows, and at
least once. It comes to what the last call does, in the world that this call has left; what was
logged before tells the number of each call, which never wraps. More tries change nothing for a step
that has succeeded, neither what comes of it nor how often it is called. -/
theorem call_bounded (p : Policy) (what : String) (text : ε → String) (step : Task σ (Except ε α))
    (w : World σ) :
    let run := (call p what text step).run w
    let bound := max p.tries.toNat 1
    (∃ k, CutAt p.delay step bound w k ∧
        run.value = (nth p.delay step k w).value ∧
        run.world = (nth p.delay step k w).world ∧
        run.journal = failures p.delay bound what text step 1 k w ++
          (nth p.delay step k w).journal ∧
        ∀ n, (call p what text step.counted).run (w.withCount n) =
          run.withCount (n + (k + 1))) ∧
      (run.succeeded = true → ∀ more : UInt32, p.tries ≤ more →
        let rerun := (call { p with tries := more } what text step).run w
        rerun.value = run.value ∧ rerun.world = run.world ∧
          ∀ n, ((call { p with tries := more } what text step.counted).run
              (w.withCount n)).world =
            ((call p what text step.counted).run (w.withCount n)).world) ∧
      ∀ (retries : UInt32) (delay : Nat),
        (Policy.ofRetries retries delay).tries.toNat = min (retries.toNat + 1) (UInt32.size - 1) := by
  intro run bound
  obtain ⟨k, hcut, hrow⟩ := exists_cutAt p what text step w
  have hrun : run = _ := hrow
  have hvalue : run.value = (nth p.delay step k w).value := by rw [hrun]
  have hworld : run.world = (nth p.delay step k w).world := by rw [hrun]
  refine ⟨⟨k, hcut, hvalue, hworld, by rw [hrun], run_call_counted what text hcut⟩,
    fun hsucceeded more hmore => ?_, Policy.toNat_tries_ofRetries⟩
  have hlast : (nth p.delay step k w).succeeded = true := by
    rwa [Stretch.succeeded, hvalue] at hsucceeded
  have hbound : bound ≤ max more.toNat 1 := by
    have := UInt32.le_iff_toNat_le.mp hmore
    omega
  have hagain : CutAt p.delay step (max more.toNat 1) w k := hcut.mono hlast hbound
  have hrerun := run_call_of_cutAt (p := { p with tries := more }) what text hagain
  refine ⟨?_, ?_, fun n => ?_⟩
  · rw [hrerun, hvalue]
  · rw [hrerun, hworld]
  · rw [run_call_counted (p := { p with tries := more }) what text hagain,
      run_call_counted what text hcut, hrerun, hrow]
    rfl

end Retry

end Testbed
