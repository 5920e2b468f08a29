import Testbed.Proofs.Suite.Verdict
import Testbed.Proofs.Task.Twin

/-! # Twin runs of a suite

Hooks and bodies that are twins make twins of all that is built from them, up to
the run of a whole suite. While a record is running its timer depends on the
clock; before and behind that, the records of both runs are equal.
-/

namespace Testbed

variable {σ τ : Type}

/-- Read at moments that are `lead` apart, both timers show the same. -/
structure Timer.Near (lead : Int) (t t' : Timer) : Prop where
  total : t'.total = t.total
  started : (t.started = none ∧ t'.started = none) ∨
    ∃ m m', t.started = some m ∧ t'.started = some m' ∧ (m' : Int) = m + lead

namespace Timer.Near

variable {lead : Int} {t t' : Timer} {now now' : Nat}

theorem refl_of_stopped (h : t.started = none) : Near lead t t :=
  ⟨rfl, .inl ⟨h, h⟩⟩

theorem eq_of_stopped (h : Near lead t t') (hstopped : t.started = none) : t' = t := by
  obtain ⟨htotal, ⟨hnone, hnone'⟩ | ⟨m, -, hm, -⟩⟩ := h
  · obtain ⟨total, started⟩ := t
    obtain ⟨total', started'⟩ := t'
    rw [Timer.mk.injEq]
    exact ⟨htotal, hnone'.trans hnone.symm⟩
  · rw [hstopped] at hm
    cases hm

theorem elapsed (h : Near lead t t') (hnow : (now' : Int) = now + lead) :
    t'.elapsed now' = t.elapsed now := by
  obtain ⟨htotal, ⟨hnone, hnone'⟩ | ⟨m, m', hm, hm', hlead⟩⟩ := h
  · simp only [Timer.elapsed, hnone, hnone', htotal]
  · simp only [Timer.elapsed, hm, hm', htotal]
    omega

theorem start (h : Near lead t t') (hnow : (now' : Int) = now + lead) :
    Near lead (t.start now) (t'.start now') :=
  ⟨h.total, .inr ⟨now, now', rfl, rfl, hnow⟩⟩

theorem stop (h : Near lead t t') (hnow : (now' : Int) = now + lead) :
    Near lead (t.stop now) (t'.stop now') :=
  ⟨h.elapsed hnow, .inl ⟨rfl, rfl⟩⟩

end Timer.Near

namespace Record

variable {view : σ → τ} {lead : Int} {r r' : Record σ} {status : Status} {text : String}
  {now now' : Nat}

/-- The records differ in their timers at most, and only by the moment of the start. -/
def Near (lead : Int) (r r' : Record σ) : Prop :=
  ∃ timer, r.timer.Near lead timer ∧ r' = { r with timer }

/-- The timer of the record does not run. -/
def Idle (r : Record σ) : Prop :=
  r.timer.started = none

theorem Idle.near (h : r.Idle) : Near lead r r :=
  ⟨r.timer, .refl_of_stopped h, rfl⟩

theorem Idle.bind (h : r.Idle) (e : Environment σ) : (r.bind e).Idle := h

theorem Idle.withStatus (hne : status ≠ .running) (h : r.status ≠ status ∨ r.Idle) :
    (r.withStatus status text now).Idle := by
  by_cases hsame : r.status = status
  · simpa [Idle, Record.withStatus, hsame] using h
  · simp [Idle, Record.withStatus, hsame, hne, Timer.stop]

namespace Near

theorem eq_of_idle (h : Near lead r r') (hidle : r.Idle) : r = r' := by
  obtain ⟨timer, htimer, rfl⟩ := h
  rw [htimer.eq_of_stopped hidle]

theorem message (h : Near lead r r') (hnow : (now' : Int) = now + lead) :
    r.message now = r'.message now' := by
  obtain ⟨timer, htimer, rfl⟩ := h
  simp only [Record.message, Record.elapsed, htimer.elapsed hnow]
  rfl

theorem withStatus (h : Near lead r r') (hnow : (now' : Int) = now + lead) :
    Near lead (r.withStatus status text now) (r'.withStatus status text now') := by
  obtain ⟨timer, htimer, rfl⟩ := h
  refine ⟨_, ?_, rfl⟩
  simp only [Record.withStatus]
  split
  · exact htimer
  · split
    · exact htimer.start hnow
    · exact htimer.stop hnow

theorem set (h : Near lead r r') :
    Task.Twin view lead
      (fun a b => Near lead a b ∧ ∃ now, a = r.withStatus status text now)
      (r.set status text) (r'.set status text) := by
  intro w w' hw
  have hnear : Near lead (r.withStatus status text w.now) (r'.withStatus status text w'.now) :=
    h.withStatus hw.now
  refine ⟨⟨hnear, w.now, rfl⟩, ?_, hw⟩
  simp only [run_set, told, hnear.message hw.now]

/-- A status that stops the timer makes equal records of near ones. -/
theorem settle (h : Near lead r r') (hne : status ≠ .running) (hr : r.status ≠ status ∨ r.Idle) :
    Task.Twin view lead (fun a b => a = b ∧ ∃ now, a = r.withStatus status text now)
      (r.set status text) (r'.set status text) := by
  refine h.set.mono ?_
  rintro a b ⟨hnear, now, rfl⟩
  exact ⟨hnear.eq_of_idle (.withStatus hne hr), now, rfl⟩

theorem settleRunning (h : Near lead r r') (hr : r.status = .running) (hne : status ≠ .running) :
    Task.Twin view lead Eq (r.set status text) (r'.set status text) := by
  refine (h.settle hne (.inl ?_)).mono fun a b hab => hab.1
  rw [hr]
  exact hne.symm

theorem interrupted (h : Near lead r r') (hr : r.status = .running) (i : Interrupt) :
    Task.Twin view lead Eq (r.interrupted i "") (r'.interrupted i "") := by
  have hne := (lastTry_verdict r.ignoreFailure i).ne_running
  obtain ⟨timer, htimer, rfl⟩ := h
  exact .seq .log (.seq .log (settleRunning ⟨timer, htimer, rfl⟩ hr hne))

end Near

end Record

/-- For how long the tasks take is only logged. -/
theorem Task.Twin.timed {view : σ → τ} {lead : Int} {α β : Type} {R : α → β → Prop}
    {t : Task σ α} {t' : Task σ β} (ht : Task.Twin view lead R t t') {what what' : String} :
    Task.Twin view lead R (Suite.timed what t) (Suite.timed what' t') :=
  .bind .now fun _ _ _ => ht.bind fun _ _ hab => .bind .now fun _ _ _ => .seq .log (.pure hab)

namespace Suite.Job

variable {view : σ → τ} {lead : Int} {job : Job σ} {hooks' : Hooks σ} {r r' : Record σ}

/-- The timer of a record has no part in how often a call is tried. -/
theorem twin_retried (timer : Timer) {what what' : String} (target : Call.Target)
    {action action' : Context σ → Action σ Unit}
    (h : (action (job.context r)).Twin view (action' (job.context r))) :
    Task.Twin view lead Eq (job.retried r what target action)
      ({ job with hooks := hooks' }.retried { r with timer } what' target action') :=
  .retry _ _ _ _ _ (.call _ _ h)

/-- The hooks of two suite objects are twins in an environment. -/
def TwinHooks (view : σ → τ) (e : Environment σ) (hooks hooks' : Hooks σ) : Prop :=
  ∀ hook name, (hooks hook ⟨e, name⟩).Twin view (hooks' hook ⟨e, name⟩)

/-- The record has not been started, and its body is a twin of itself. -/
structure Ready (view : σ → τ) (e : Environment σ) (r : Record σ) : Prop where
  idle : r.Idle
  body : (r.testCase.body ⟨e, r.testCase.name⟩).Twin view (r.testCase.body ⟨e, r.testCase.name⟩)

variable (hhooks : TwinHooks view job.environment job.hooks hooks')

include hhooks

theorem twin_suiteHook (hook : Hook) :
    Task.Twin view lead Eq (job.suiteHook hook) ({ job with hooks := hooks' }.suiteHook hook) :=
  .call _ _ (hhooks _ _)

theorem twin_caseHook (timer : Timer) (hook : Hook) :
    Task.Twin view lead Eq (job.caseHook r hook)
      ({ job with hooks := hooks' }.caseHook { r with timer } hook) :=
  twin_retried timer _ (hhooks _ _)

theorem twin_setUp (hr : r.Near lead r') (hrunning : r.status = .running) :
    Task.Twin view lead Eq (job.setUp r) ({ job with hooks := hooks' }.setUp r') := by
  have hskip {text : String} :
      Task.Twin view lead Eq (r.set .skipped text) (r'.set .skipped text) :=
    hr.settleRunning hrunning (by decide)
  obtain ⟨timer, -, rfl⟩ := hr
  refine (twin_caseHook hhooks timer .beforeCase).bind ?_
  rintro result _ rfl
  cases result with
  | ok => exact .pure rfl
  | error i =>
    refine .seq .log (hskip.bind ?_)
    rintro skipped _ rfl
    exact .pure rfl

omit hhooks in
theorem twin_runBody (hr : r.Near lead r') (hrunning : r.status = .running)
    (hbody : (r.testCase.body (job.context r)).Twin view (r.testCase.body (job.context r))) :
    Task.Twin view lead Eq (job.runBody r) ({ job with hooks := hooks' }.runBody r') := by
  have hpass : Task.Twin view lead Eq (r.set .passed "") (r'.set .passed "") :=
    hr.settleRunning hrunning (by decide)
  have hinterrupted (i : Interrupt) :
      Task.Twin view lead Eq (r.interrupted i "") (r'.interrupted i "") :=
    hr.interrupted hrunning i
  obtain ⟨timer, -, rfl⟩ := hr
  refine (twin_retried timer .body hbody).bind ?_
  rintro result _ rfl
  cases result with
  | ok => exact hpass
  | error i => exact hinterrupted i

theorem twin_runCase (hr : r.Near lead r') (hrunning : r.status = .running)
    (hbody : (r.testCase.body (job.context r)).Twin view (r.testCase.body (job.context r)))
    (setupError : Option String) :
    Task.Twin view lead Eq (job.runCase setupError r)
      ({ job with hooks := hooks' }.runCase setupError r') := by
  cases setupError with
  | some text => exact hr.settleRunning hrunning (by decide)
  | none =>
    refine (twin_setUp hhooks hr hrunning).timed.bind ?_
    rintro skipped _ rfl
    cases skipped with
    | some skipped => exact .pure rfl
    | none => exact (twin_runBody hr hrunning hbody).timed

theorem twin_cleanUp (timer : Timer) :
    Task.Twin view lead Eq (job.cleanUp r)
      ({ job with hooks := hooks' }.cleanUp { r with timer }) := by
  refine (twin_caseHook hhooks timer .afterCase).bind ?_
  rintro cleanup _ rfl
  cases cleanup with
  | ok => exact .pure rfl
  | error i => exact .log

theorem twin_runRecord (hr : Ready view job.environment r) (setupError : Option String) :
    Task.Twin view lead Eq (job.runRecord setupError r)
      ({ job with hooks := hooks' }.runRecord setupError r) := by
  refine .seq .log (.bind .now fun began began' _ => ?_)
  refine (hr.idle.bind job.environment).near.set.bind ?_
  rintro started started' ⟨hstarted, now, rfl⟩
  refine (twin_runCase hhooks hstarted rfl hr.body setupError).bind ?_
  rintro result _ rfl
  refine (twin_cleanUp hhooks result.timer).timed.seq ?_
  exact .bind .now fun _ _ _ => .seq .log (.pure rfl)

theorem twin_runRecords {records : List (Record σ)}
    (hrecords : ∀ r ∈ records, Ready view job.environment r) (setupError : Option String)
    (stopAsked : Bool) :
    Task.Twin view lead Eq (job.runRecords setupError stopAsked records)
      ({ job with hooks := hooks' }.runRecords setupError stopAsked records) := by
  induction records with
  | nil => exact .pure rfl
  | cons r rest ih =>
    obtain ⟨hr, hrest⟩ := List.forall_mem_cons.mp hrecords
    rw [runRecords, runRecords]
    refine (twin_runRecord hhooks hr setupError).listen.bind ?_
    rintro ⟨result, journal⟩ ⟨_, journal'⟩ ⟨rfl, hstopped⟩
    dsimp only at hstopped ⊢
    rw [hstopped]
    split
    · exact .seq .log (.pure rfl)
    · refine (ih hrest).bind ?_
      rintro others _ rfl
      exact .pure rfl

theorem twin_setUpSuite :
    Task.Twin view lead Eq job.setUpSuite ({ job with hooks := hooks' }.setUpSuite) := by
  refine (twin_suiteHook hhooks .beforeSuite).bind ?_
  rintro setup _ rfl
  cases setup with
  | ok => exact .pure rfl
  | error i => exact .seq .log (.pure rfl)

theorem twin_cleanUpSuite :
    Task.Twin view lead Eq job.cleanUpSuite ({ job with hooks := hooks' }.cleanUpSuite) := by
  refine (twin_suiteHook hhooks .afterSuite).bind ?_
  rintro cleanup _ rfl
  cases cleanup with
  | ok => exact .pure rfl
  | error i => exact .log

theorem twin_run {records : List (Record σ)}
    (hrecords : ∀ r ∈ records, Ready view job.environment r) :
    Task.Twin view lead Eq (job.run records) ({ job with hooks := hooks' }.run records) := by
  refine (twin_setUpSuite hhooks).timed.listen.bind ?_
  rintro ⟨setupError, journal⟩ ⟨_, journal'⟩ ⟨rfl, hstopped⟩
  dsimp only at hstopped ⊢
  rw [hstopped]
  refine (twin_runRecords hhooks hrecords setupError journal'.stopped).bind ?_
  rintro ran _ rfl
  exact (twin_cleanUpSuite hhooks).timed.seq (.pure rfl)

end Suite.Job

namespace Suite

open Job

variable {view : σ → τ} {lead : Int} {e : Environment σ} {records : List (Record σ)}

theorem twin_runWith {hooks hooks' : Hooks σ} (hhooks : TwinHooks view e.markUsed hooks hooks')
    (hrecords : ∀ r ∈ records, Ready view e.markUsed r) (suite : String) (delay : Nat) :
    Task.Twin view lead Eq (runWith suite hooks delay e records)
      (runWith suite hooks' delay e records) := by
  refine .seq .note ?_
  let job : Job σ := ⟨suite, hooks, e.markUsed, delay⟩
  have hrun : Task.Twin view lead Eq (job.run records) ({ job with hooks := hooks' }.run records) :=
    twin_run hhooks hrecords
  refine hrun.bind ?_
  rintro ran _ rfl
  exact .pure rfl

/-- The suite objects that the suite makes from states of which the view is the same are twins. -/
def TwinObjects (view : σ → τ) (e : Environment σ) (suite : Suite σ) : Prop :=
  ∀ s s', view s = view s' → TwinHooks view e (suite.create s).1 (suite.create s').1 ∧
    view (suite.create s).2 = view (suite.create s').2

theorem twin_run {suite : Suite σ} (hsuite : TwinObjects view e.markUsed suite)
    (hrecords : ∀ r ∈ records, Ready view e.markUsed r) (delay : Nat) :
    Task.Twin view lead Eq (suite.run delay e records) (suite.run delay e records) := by
  refine (Task.Twin.update hsuite).bind fun hooks hooks' hhooks => ?_
  exact .seq .note (twin_runWith hhooks hrecords suite.name delay)

end Suite

end Testbed
