import Testbed.Proofs.Suite.Verdict

/-! # What a suite run leaves alone

Only hooks and bodies change the state. A part of it that none of them changes
is the same after a suite run as before, and a suite run tells of nothing but
its own records.
-/

namespace Testbed

open Reply

variable {σ τ α : Type}

/-- The action never changes what is viewed. -/
def Action.Leaves (view : σ → τ) (act : Action σ α) : Prop :=
  ∀ s, view (act s).state = view s

theorem Action.Leaves.repeated {view : σ → τ} {act : Action σ α} (h : act.Leaves view) (n : Nat)
    (s : σ) : view (lastState s (act.repeated n s)) = view s := by
  induction n generalizing s with
  | zero => rfl
  | succ n ih => exact (ih _).trans (h s)

theorem Tried.view_lastState {view : σ → τ} {act : Action σ α} {bound : Nat} {s : σ}
    {replies : List (Reply σ α)} (h : Tried act bound s replies) (hact : act.Leaves view) :
    view (lastState s replies) = view s := by
  rw [h.answered]
  exact hact.repeated _ s

namespace Suite.Job

variable {view : σ → τ} {job : Job σ}

/-- No hook changes what is viewed. -/
def HooksLeave (view : σ → τ) (e : Environment σ) (hooks : Hooks σ) : Prop :=
  ∀ hook name, (hooks hook ⟨e, name⟩).Leaves view

/-- The body of the record does not change what is viewed. -/
def BodyLeaves (view : σ → τ) (e : Environment σ) (r : Record σ) : Prop :=
  (r.testCase.body ⟨e, r.testCase.name⟩).Leaves view

theorem tells_run (records : List (Record σ)) (w : World σ) {m : RecordMessage}
    (hm : m ∈ ((job.run records).run w).journal.recordMessages) : ∃ r ∈ records, m.id = r.id := by
  obtain ⟨rounds, rest, rfl, -, -, -, hevents⟩ := job.run_run records w
  rw [← Journal.recordMessages_events, hevents] at hm
  simp only [Journal.recordMessages_append, Journal.recordMessages_flatMap,
    Round.recordMessages_events, recordMessages_suiteActs, List.nil_append, List.append_nil,
    List.mem_flatMap, List.mem_cons, List.not_mem_nil, or_false] at hm
  obtain ⟨round, hround, hm⟩ := hm
  refine ⟨round.record, List.mem_append_left _ (List.mem_map_of_mem hround), ?_⟩
  rcases hm with rfl | rfl <;> rfl

variable (hhooks : HooksLeave view job.environment job.hooks)

include hhooks

theorem Block.Follows.view_lastState {b : Block σ} {setupFailed : Bool} {r : Record σ} {s : σ}
    (h : b.Follows job setupFailed r s) (hbody : BodyLeaves view job.environment r) :
    view (lastState s b.replies) = view s := by
  have hbefore : view (lastState s b.before) = view s := by
    have hbefore := h.before
    split at hbefore
    · rw [hbefore, lastState_nil]
    · exact hbefore.view_lastState (hhooks _ _)
  have hbody : view (lastState s (b.before ++ b.body)) = view s := by
    have hrun := h.body
    split at hrun
    · rw [hrun, List.append_nil, hbefore]
    · rw [lastState_append, hrun.view_lastState hbody, hbefore]
  rw [Block.replies, lastState_append, h.after.view_lastState (hhooks _ _), hbody]

theorem Rounds.view_lastState {setupFailed stopAsked : Bool} {s : σ} {rounds : List (Round σ)}
    {rest : List (Record σ)} (h : job.Rounds setupFailed stopAsked s rounds rest)
    (hbodies : ∀ round ∈ rounds, BodyLeaves view job.environment round.record) :
    view (lastState s (rounds.flatMap (·.block.replies))) = view s := by
  induction h with
  | done => rfl
  | stopped hfollows =>
    rw [List.flatMap_singleton]
    exact hfollows.view_lastState hhooks (hbodies _ List.mem_cons_self)
  | next hfollows _ _ ih =>
    obtain ⟨hbody, hbodies⟩ := List.forall_mem_cons.mp hbodies
    rw [List.flatMap_cons, lastState_append, ih hbodies, hfollows.view_lastState hhooks hbody]

theorem view_run {records : List (Record σ)}
    (hbodies : ∀ r ∈ records, BodyLeaves view job.environment r) (w : World σ) :
    view ((job.run records).run w).world.state = view w.state := by
  obtain ⟨rounds, rest, rfl, hrounds, -, hstate, -⟩ := job.run_run records w
  have hcleanup (s : σ) : view (job.answer .afterSuite s).state = view s := hhooks _ _ s
  rw [hstate, hcleanup, hrounds.view_lastState hhooks]
  · exact hhooks _ _ w.state
  · exact fun round hround => hbodies _ (List.mem_append_left _ (List.mem_map_of_mem hround))

end Suite.Job

namespace Suite

open Job

variable {view : σ → τ} {e : Environment σ} {records : List (Record σ)}

/-- Neither making a suite object nor any of its hooks changes what is viewed. -/
def ObjectsLeave (view : σ → τ) (e : Environment σ) (suite : Suite σ) : Prop :=
  ∀ s, HooksLeave view e (suite.create s).1 ∧ view (suite.create s).2 = view s

theorem view_run {suite : Suite σ} (hsuite : ObjectsLeave view e.markUsed suite)
    (hbodies : ∀ r ∈ records, BodyLeaves view e.markUsed r) (delay : Nat) (w : World σ) :
    view ((suite.run delay e records).run w).world.state = view w.state := by
  obtain ⟨hhooks, hcreate⟩ := hsuite w.state
  let job : Job σ := ⟨suite.name, (suite.create w.state).1, e.markUsed, delay⟩
  have hrun : view ((job.run records).run ⟨(suite.create w.state).2, w.now⟩).world.state =
      view (suite.create w.state).2 := Job.view_run hhooks hbodies _
  exact hrun.trans hcreate

theorem recordMessages_run (suite : Suite σ) (delay : Nat) (e : Environment σ)
    (records : List (Record σ)) (w : World σ) :
    let job : Job σ := ⟨suite.name, (suite.create w.state).1, e.markUsed, delay⟩
    let made : World σ := { w with state := (suite.create w.state).2 }
    ((suite.run delay e records).run w).journal.recordMessages =
      ((job.run records).run made).journal.recordMessages := by
  simp only [Suite.run, Task.run_bind, Task.run_note, run_runWith]
  rfl

theorem tells_run (suite : Suite σ) (delay : Nat) (e : Environment σ) (records : List (Record σ))
    (w : World σ) {m : RecordMessage}
    (hm : m ∈ ((suite.run delay e records).run w).journal.recordMessages) :
    ∃ r ∈ records, m.id = r.id := by
  rw [recordMessages_run] at hm
  exact Job.tells_run records _ hm

end Suite

end Testbed
