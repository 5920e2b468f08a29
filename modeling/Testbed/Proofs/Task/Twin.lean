import Testbed.Proofs.Suite.Tries

/-! # Twin runs

Two tasks are twins if they cannot be told apart by a part of the state: run
from worlds in which that part is the same, they do and tell the same, and it is
the same again behind them. Their clocks may show different times, but only as
far apart at the end as at the start.
-/

namespace Testbed

variable {σ τ α β γ δ ε : Type}

/-- The view of both states is the same, and the second clock is `lead` ahead of the first. -/
structure World.Near (view : σ → τ) (lead : Int) (w w' : World σ) : Prop where
  view : view w.state = view w'.state
  now : (w'.now : Int) = w.now + lead

/-- Called in states of which the view is the same, both actions reply the same, and the view of the
states is the same again. -/
def Action.Twin (view : σ → τ) (act act' : Action σ α) : Prop :=
  ∀ s s', view s = view s' →
    (act s).result = (act' s').result ∧ (act s).stop = (act' s').stop ∧
      view (act s).state = view (act' s').state

namespace Task

/-- Run from near worlds, both tasks lead to related values and to the same events, and the worlds
are near again. -/
def Twin (view : σ → τ) (lead : Int) (R : α → β → Prop) (t : Task σ α) (t' : Task σ β) : Prop :=
  ∀ w w', World.Near view lead w w' →
    R (t.run w).value (t'.run w').value ∧
      (t.run w).journal.events = (t'.run w').journal.events ∧
      World.Near view lead (t.run w).world (t'.run w').world

namespace Twin

variable {view : σ → τ} {lead : Int} {R : α → β → Prop} {Q : γ → δ → Prop}

theorem pure {a : α} {b : β} (h : R a b) :
    Twin view lead R (Pure.pure a : Task σ α) (Pure.pure b) :=
  fun _ _ hw => ⟨h, rfl, hw⟩

theorem bind {t : Task σ α} {t' : Task σ β} {f : α → Task σ γ} {f' : β → Task σ δ}
    (ht : Twin view lead R t t') (hf : ∀ a b, R a b → Twin view lead Q (f a) (f' b)) :
    Twin view lead Q (t >>= f) (t' >>= f') := by
  intro w w' hw
  obtain ⟨hvalue, hevents, hworld⟩ := ht w w' hw
  obtain ⟨hvalue', hevents', hworld'⟩ := hf _ _ hvalue _ _ hworld
  refine ⟨hvalue', ?_, hworld'⟩
  rw [run_bind, run_bind, Journal.events_append, Journal.events_append, hevents, hevents']

/-- Twins in sequence, the second ones without regard to the values of the first. -/
theorem seq {t : Task σ α} {t' : Task σ β} {u : Task σ γ} {u' : Task σ δ}
    (ht : Twin view lead R t t') (hu : Twin view lead Q u u') :
    Twin view lead Q (t >>= fun _ => u) (t' >>= fun _ => u') :=
  ht.bind fun _ _ _ => hu

theorem mono {R' : α → β → Prop} {t : Task σ α} {t' : Task σ β} (ht : Twin view lead R t t')
    (h : ∀ a b, R a b → R' a b) : Twin view lead R' t t' := by
  intro w w' hw
  obtain ⟨hvalue, hrest⟩ := ht w w' hw
  exact ⟨h _ _ hvalue, hrest⟩

theorem now : Twin view lead (fun a b : Nat => (b : Int) = a + lead) (now : Task σ Nat) now :=
  fun _ _ hw => ⟨hw.now, rfl, hw⟩

theorem note {entry : Entry} :
    Twin view lead Eq (note entry : Task σ Unit) (note entry) :=
  fun _ _ hw => ⟨rfl, rfl, hw⟩

/-- What is logged need not be the same. -/
theorem log {level level' : Log.Level} {target target' text text' : String} :
    Twin view lead Eq (log level target text : Task σ Unit) (log level' target' text') :=
  fun _ _ hw => ⟨rfl, rfl, hw⟩

theorem wait {milliseconds : Nat} :
    Twin view lead Eq (wait milliseconds : Task σ Unit) (wait milliseconds) := by
  intro w w' hw
  refine ⟨rfl, rfl, hw.view, ?_⟩
  have hnow := hw.now
  simp only [run_wait]
  omega

theorem update {f : σ → α × σ} {f' : σ → β × σ}
    (h : ∀ s s', view s = view s' → R (f s).1 (f' s').1 ∧ view (f s).2 = view (f' s').2) :
    Twin view lead R (update f) (update f') := by
  intro w w' hw
  obtain ⟨hvalue, hview⟩ := h w.state w'.state hw.view
  exact ⟨hvalue, rfl, hview, hw.now⟩

theorem listen {t : Task σ α} {t' : Task σ β} (ht : Twin view lead R t t') :
    Twin view lead (fun a b => R a.1 b.1 ∧ a.2.stopped = b.2.stopped) (listen t) (listen t') := by
  intro w w' hw
  obtain ⟨hvalue, hevents, hworld⟩ := ht w w' hw
  refine ⟨⟨hvalue, ?_⟩, hevents, hworld⟩
  rw [run_listen, run_listen, ← Journal.stopped_events, hevents, Journal.stopped_events]

theorem call (suite : String) (target : Call.Target) {ctx : Context σ}
    {action action' : Context σ → Action σ Unit} (h : (action ctx).Twin view (action' ctx)) :
    Twin view lead Eq (call suite target ctx action) (call suite target ctx action') := by
  intro w w' hw
  obtain ⟨hresult, hstop, hstate⟩ := h w.state w'.state hw.view
  obtain ⟨hvalue, hevents, hworld⟩ := run_call suite target ctx action w
  obtain ⟨hvalue', hevents', hworld'⟩ := run_call suite target ctx action' w'
  refine ⟨?_, ?_, ?_⟩
  · rw [hvalue, hvalue', hresult]
  · rw [hevents, hevents', Reply.acts, Reply.acts, Reply.interrupt?, Reply.interrupt?, hresult,
      hstop]
  · rw [hworld, hworld']
    exact ⟨hstate, hw.now⟩

section Retry

variable {step step' : Task σ (Except ε α)} (p : Retry.Policy) (what what' : String)
  (text text' : ε → String)

theorem attempt (hstep : Twin view lead Eq step step') {n : UInt32}
    (hnext : n < p.bound → Twin view lead Eq (Retry.attemptFrom p what text step (n + 1))
      (Retry.attemptFrom p what' text' step' (n + 1))) :
    Twin view lead Eq (Retry.attemptFrom p what text step n)
      (Retry.attemptFrom p what' text' step' n) := by
  rw [Retry.attemptFrom.eq_def p what text step n, Retry.attemptFrom.eq_def p what' text' step' n]
  refine hstep.bind ?_
  rintro result _ rfl
  cases result with
  | ok a => exact .pure rfl
  | error e =>
    dsimp only
    split
    · rename_i hlt
      exact log.seq (wait.seq (hnext hlt))
    · exact .pure rfl

theorem attemptFrom (hstep : Twin view lead Eq step step') (k : Nat) (n : UInt32)
    (hn : n.toNat + k = p.bound.toNat) :
    Twin view lead Eq (Retry.attemptFrom p what text step n)
      (Retry.attemptFrom p what' text' step' n) := by
  induction k generalizing n with
  | zero =>
    refine attempt p what what' text text' hstep fun hlt => ?_
    rw [UInt32.lt_iff_toNat_lt] at hlt
    omega
  | succ k ih =>
    refine attempt p what what' text text' hstep fun hlt => ih (n + 1) ?_
    rw [Retry.toNat_add_one hlt]
    omega

/-- Tries of twins are twins, whatever is logged between them. -/
theorem retry (hstep : Twin view lead Eq step step') :
    Twin view lead Eq (Retry.call p what text step) (Retry.call p what' text' step') := by
  have h1 : 1 ≤ p.bound.toNat := UInt32.le_iff_toNat_le.mp p.one_le_bound
  exact attemptFrom p what what' text text' hstep (p.bound.toNat - 1) 1 (by
    change 1 + _ = _
    omega)

end Retry

theorem mapM {P : γ → Prop} {f f' : α → Task σ γ} {xs : List α}
    (h : ∀ x ∈ xs, Twin view lead (fun a b => a = b ∧ P a) (f x) (f' x)) :
    Twin view lead (fun as bs => as = bs ∧ ∀ a ∈ as, P a) (xs.mapM f) (xs.mapM f') := by
  induction xs with
  | nil => exact .pure ⟨rfl, fun _ ha => absurd ha List.not_mem_nil⟩
  | cons x xs ih =>
    rw [List.mapM_cons, List.mapM_cons]
    refine (h x List.mem_cons_self).bind ?_
    rintro a _ ⟨rfl, ha⟩
    refine (ih fun y hy => h y (List.mem_cons_of_mem _ hy)).bind ?_
    rintro as _ ⟨rfl, has⟩
    exact .pure ⟨rfl, List.forall_mem_cons.mpr ⟨ha, has⟩⟩

end Twin

end Task

end Testbed
