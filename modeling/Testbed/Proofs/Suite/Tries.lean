import Testbed.Proofs.Retry
import Testbed.Suite.Run

/-! # Hooks and bodies that are tried

A hook or a body is called until it succeeds or a number of calls is reached,
each time in the state which the call before has left. Its replies say all
there is to say of the calls: how they came out, what shows of them in the
journal, and the state after them.
-/

namespace Testbed

variable {σ α : Type}

def interruptOf? : Except Interrupt α → Option Interrupt
  | .ok _ => none
  | .error i => some i

namespace Reply

def interrupt? (reply : Reply σ α) : Option Interrupt :=
  interruptOf? reply.result

/-- The state after some replies in a row. -/
def lastState (s : σ) (replies : List (Reply σ α)) : σ :=
  replies.foldl (fun _ reply => reply.state) s

/-- The interrupt of the last of some replies, if it is one. -/
def lastInterrupt? (replies : List (Reply σ α)) : Option Interrupt :=
  replies.getLast?.bind interrupt?

@[simp] theorem lastState_nil (s : σ) : lastState s ([] : List (Reply σ α)) = s := rfl

@[simp] theorem lastState_append (s : σ) (a b : List (Reply σ α)) :
    lastState s (a ++ b) = lastState (lastState s a) b := by
  simp [lastState]

theorem lastState_of_getLast? {s : σ} {replies : List (Reply σ α)} {last : Reply σ α}
    (h : replies.getLast? = some last) : lastState s replies = last.state := by
  obtain ⟨init, rfl⟩ := List.getLast?_eq_some_iff.mp h
  simp [lastState]

end Reply

namespace Action

/-- What an action replies when it is called `n` times in a row. -/
def repeated (act : Action σ α) : Nat → σ → List (Reply σ α)
  | 0, _ => []
  | n + 1, s => act s :: act.repeated n (act s).state

/-- What an action replies when it is called until it succeeds, `n` times at most. -/
def tries (act : Action σ α) : Nat → σ → List (Reply σ α)
  | 0, _ => []
  | n + 1, s => act s ::
    if (act s).interrupt?.isSome then act.tries n (act s).state else []

end Action

/-- The calls of an action in a row end at the first one that succeeds, or after `bound` of them. -/
structure Tried (act : Action σ α) (bound : Nat) (s : σ) (replies : List (Reply σ α)) : Prop where
  answered : replies = act.repeated replies.length s
  ne_nil : replies ≠ []
  length_le : replies.length ≤ bound
  failed_before : ∀ reply ∈ replies.dropLast, reply.interrupt? ≠ none
  ended : replies.length = bound ∨ Reply.lastInterrupt? replies = none

namespace Tried

variable {act : Action σ α} {s : σ} {n : Nat}

theorem single (h : (act s).interrupt? = none) : Tried act (n + 1) s [act s] where
  answered := rfl
  ne_nil := List.cons_ne_nil _ _
  length_le := by simp
  failed_before := by simp
  ended := .inr h

theorem once : Tried act 1 s [act s] where
  answered := rfl
  ne_nil := List.cons_ne_nil _ _
  length_le := by simp
  failed_before := by simp
  ended := .inl rfl

theorem cons {replies : List (Reply σ α)} (h : (act s).interrupt? ≠ none)
    (ht : Tried act n (act s).state replies) : Tried act (n + 1) s (act s :: replies) where
  answered := by
    rw [List.length_cons, Action.repeated, ← ht.answered]
  ne_nil := List.cons_ne_nil _ _
  length_le := by simpa using ht.length_le
  failed_before := by
    rw [List.dropLast_cons_of_ne_nil ht.ne_nil]
    intro reply hr
    rcases List.mem_cons.mp hr with rfl | hr
    · exact h
    · exact ht.failed_before reply hr
  ended := by
    rcases ht.ended with hn | hl
    · exact .inl (by simp [hn])
    · refine .inr ?_
      rw [Reply.lastInterrupt?, List.getLast?_cons_of_ne_nil ht.ne_nil]
      exact hl

end Tried

theorem tried_tries (act : Action σ α) {n : Nat} (hn : 0 < n) (s : σ) :
    Tried act n s (act.tries n s) := by
  induction n generalizing s with
  | zero => exact absurd hn (Nat.lt_irrefl 0)
  | succ n ih =>
    rw [Action.tries]
    cases h : (act s).interrupt? with
    | none => exact .single h
    | some i =>
      rcases Nat.eq_zero_or_pos n with rfl | hn
      · exact .once
      · exact .cons (by simp [h]) (ih hn _)

/-- What shows of a call, apart from the lines that are logged in it. -/
def Reply.acts (suite : String) (target : Call.Target) (ctx : Context σ) (reply : Reply σ Unit) :
    Journal :=
  .call ⟨suite, target, ctx.caseName, ctx.environment.isNew, reply.interrupt?⟩ ::
    if reply.stop then [.stop] else []

@[simp] theorem Reply.stopped_acts (suite : String) (target : Call.Target) (ctx : Context σ)
    (reply : Reply σ Unit) : Journal.stopped (reply.acts suite target ctx) = reply.stop := by
  cases h : reply.stop <;> simp [Reply.acts, Journal.stopped, h]

@[simp] theorem Journal.stopped_flatMap {β : Type} (f : β → Journal) (xs : List β) :
    Journal.stopped (xs.flatMap f) = xs.any fun x => (f x).stopped := by
  induction xs with
  | nil => rfl
  | cons x xs ih => simp [ih]

theorem Task.run_call (suite : String) (target : Call.Target) (ctx : Context σ)
    (action : Context σ → Action σ Unit) (w : World σ) :
    let run := (Task.call suite target ctx action).run w
    let reply := action ctx w.state
    run.value = reply.result ∧ run.journal.events = reply.acts suite target ctx ∧
      run.world = { w with state := reply.state } := by
  refine ⟨rfl, ?_, rfl⟩
  change Entry.call _ :: Journal.events (List.map Entry.line _ ++ _) = Entry.call _ :: _
  rw [Journal.events_lines]
  obtain ⟨result, stop, log, state⟩ := action ctx w.state
  cases result <;> cases stop <;> rfl

/-- The stretches of a call under a retry policy are the replies to it. -/
theorem map_tries_call (suite : String) (target : Call.Target) (ctx : Context σ)
    (action : Context σ → Action σ Unit) (delay n : Nat) (w : World σ) :
    (Retry.tries delay (Task.call suite target ctx action) n w).map
        (fun run => (run.value, run.journal.events, run.world.state)) =
      ((action ctx).tries n w.state).map
        (fun reply => (reply.result, reply.acts suite target ctx, reply.state)) := by
  induction n generalizing w with
  | zero => rfl
  | succ n ih =>
    obtain ⟨hv, he, hw⟩ := Task.run_call suite target ctx action w
    rw [Retry.tries, Action.tries, List.map_cons, List.map_cons, he, hw, Reply.interrupt?, ← hv]
    cases ((Task.call suite target ctx action).run w).value with
    | ok => simp [interruptOf?]
    | error i => simpa [interruptOf?] using ih _

/-- A call under a retry policy comes out as the last reply does. -/
theorem run_retry_call (p : Retry.Policy) (what suite : String) (target : Call.Target)
    (ctx : Context σ) (action : Context σ → Action σ Unit) (w : World σ) :
    let run := (Retry.call p what Interrupt.detail (Task.call suite target ctx action)).run w
    let replies := (action ctx).tries p.bound.toNat w.state
    interruptOf? run.value = Reply.lastInterrupt? replies ∧
      run.world.state = Reply.lastState w.state replies ∧
      run.journal.events = replies.flatMap (·.acts suite target ctx) := by
  intro run replies
  obtain ⟨last, hlast, hv, hw, hj⟩ := Retry.call_eq_tries p what Interrupt.detail
    (Task.call suite target ctx action) w
  have hm := map_tries_call suite target ctx action p.delay p.bound.toNat w
  have hl := congrArg List.getLast? hm
  rw [List.getLast?_map, List.getLast?_map, hlast] at hl
  obtain ⟨reply, hreply, he⟩ := Option.map_eq_some_iff.mp hl.symm
  simp only [Prod.mk.injEq] at he
  refine ⟨?_, ?_, ?_⟩
  · rw [hv, Reply.lastInterrupt?, hreply, ← he.1]
    rfl
  · rw [hw, Reply.lastState_of_getLast? hreply, he.2.2]
  · have hf := congrArg (List.flatMap fun x => x.2.1) hm
    rw [List.flatMap_map, List.flatMap_map] at hf
    exact hj.trans hf

namespace Suite.Job

variable (job : Job σ) (r : Record σ)

/-- What the hooks around a case and its body are called with. -/
def context : Context σ :=
  ⟨job.environment, r.testCase.name⟩

/-- The tries that a record has for each of its hooks and for its body. -/
def bound : Nat :=
  min (r.retries.toNat + 1) (UInt32.size - 1)

theorem bound_pos : 0 < bound r := by
  have : UInt32.size = 4294967296 := rfl
  unfold bound
  omega

theorem toNat_bound_ofRetries (delay : Nat) :
    (Retry.Policy.ofRetries r.retries delay).bound.toNat = bound r := by
  have h := Retry.Policy.toNat_tries_ofRetries r.retries delay
  change _ = bound r at h
  rw [Retry.Policy.bound, if_neg, h]
  intro h0
  rw [h0] at h
  exact absurd h (Nat.ne_of_lt (bound_pos r))

/-- The replies to a hook or the body that is tried for a record. -/
def replies (action : Context σ → Action σ Unit) (s : σ) : List (Reply σ Unit) :=
  (action (job.context r)).tries (bound r) s

theorem tried_replies (action : Context σ → Action σ Unit) (s : σ) :
    Tried (action (job.context r)) (bound r) s (job.replies r action s) :=
  tried_tries _ (bound_pos r) s

theorem run_retried (what : String) (target : Call.Target) (action : Context σ → Action σ Unit)
    (w : World σ) :
    let run := (job.retried r what target action).run w
    let replies := job.replies r action w.state
    interruptOf? run.value = Reply.lastInterrupt? replies ∧
      run.world.state = Reply.lastState w.state replies ∧
      run.journal.events = replies.flatMap (·.acts job.suite target (job.context r)) := by
  rw [replies, ← toNat_bound_ofRetries r job.delay]
  exact run_retry_call ..

end Suite.Job

end Testbed
