import Testbed.Proofs.Run.Order
import Testbed.Proofs.Suite.Frame
import Testbed.Proofs.Suite.Twin

/-! # The run of one group

A group of records of one suite comes out the same whether the environment is
new or used, and from all states that its suite cannot tell apart. It leaves
alone what its hooks and bodies leave alone, and tells of its own records only.
-/

namespace Testbed

variable {σ τ α β : Type}

namespace Task

theorem run_mapM {f : α → Task σ β} (hf : ∀ a w, ((f a).run w).world = w) (xs : List α)
    (w : World σ) :
    (xs.mapM f).run w =
      ⟨xs.map fun a => ((f a).run w).value, xs.flatMap fun a => ((f a).run w).journal, w⟩ := by
  induction xs with
  | nil => rfl
  | cons x xs ih => simp [List.mapM_cons, hf, ih]

theorem world_mapM {f : α → Task σ β} (hf : ∀ a w, ((f a).run w).world = w) (xs : List α)
    (w : World σ) : ((xs.mapM f).run w).world = w := by
  rw [run_mapM hf]

theorem tells_mapM {f : α → Task σ β} {xs : List α} {w : World σ} {m : RecordMessage}
    (hm : m ∈ ((xs.mapM f).run w).journal.recordMessages) :
    ∃ x ∈ xs, ∃ w, m ∈ ((f x).run w).journal.recordMessages := by
  induction xs generalizing w with
  | nil => exact absurd hm List.not_mem_nil
  | cons x xs ih =>
    simp only [List.mapM_cons, run_bind, run_pure, Journal.recordMessages_append,
      List.mem_append] at hm
    rcases hm with hm | hm | hm
    · exact ⟨x, List.mem_cons_self, w, hm⟩
    · obtain ⟨y, hy, hm⟩ := ih hm
      exact ⟨y, List.mem_cons_of_mem _ hy, hm⟩
    · exact absurd hm List.not_mem_nil

end Task

namespace Record

variable {r r' : Record σ}

theorem id_eq_of_origin_eq (h : r.origin = r'.origin) : r.id = r'.id :=
  (congrArg Record.id h :)

theorem testCase_eq_of_origin_eq (h : r.origin = r'.origin) : r.testCase = r'.testCase :=
  (congrArg Record.testCase h :)

end Record

namespace Run

open Suite.Job

variable {view : σ → τ} {lead : Int} {e : Environment σ} {r : Record σ}

/-- The record as it is when its requirement has been looked at. -/
def examined (e : Environment σ) (r : Record σ) : Record σ :=
  (r.bind e).withFinding (r.testCase.requirement.check e true) e.name

theorem gate_eq (e : Environment σ) (r : Record σ) :
    gate e r = (do
      Task.log .debug Record.logTarget
        s!"check '{r.name}' on environment '{e.name}': {(r.testCase.requirement.check e true).text}"
      if (r.testCase.requirement.check e true).met then pure (examined e r)
      else (examined e r).set .skipped s!"no available environment: {(examined e r).explain}") :=
  rfl

theorem world_gate (e : Environment σ) (r : Record σ) (w : World σ) :
    ((gate e r).run w).world = w := by
  rw [gate_eq, Task.run_bind]
  split <;> rfl

theorem tells_gate {w : World σ} {m : RecordMessage}
    (hm : m ∈ ((gate e r).run w).journal.recordMessages) : m.id = r.id := by
  rw [gate_eq, Task.run_bind] at hm
  split at hm
  · exact absurd hm List.not_mem_nil
  · obtain rfl := List.mem_singleton.mp hm
    rfl

theorem twin_gate (hr : Ready view e.markUsed r) :
    Task.Twin view lead (fun a b => a = b ∧ Ready view e.markUsed a) (gate e r) (gate e r) := by
  have hidle : (examined e r).Idle := hr.idle
  rw [gate_eq]
  refine .seq .log ?_
  split
  · exact .pure ⟨rfl, hidle, hr.body⟩
  · refine (hidle.near.settle (by decide) (.inr hidle)).mono ?_
    rintro a _ ⟨rfl, now, rfl⟩
    exact ⟨rfl, .withStatus (by decide) (.inr hidle), hr.body⟩

/-- Whether the environment is new is of no account for a group. -/
theorem twin_runGroup {suite : Suite σ} (hsuite : suite.TwinObjects view e.markUsed)
    {records : List (Record σ)} (hrecords : ∀ r ∈ records, Ready view e.markUsed r) (delay : Nat)
    (isNew : Bool) :
    Task.Twin view lead (fun a b => a.1 = b.1) (runGroup delay suite e records)
      (runGroup delay suite { e with isNew } records) := by
  refine (Task.Twin.mapM fun r hr => twin_gate (hrecords r hr)).bind ?_
  rintro gates _ ⟨rfl, hgates⟩
  have hrunnable : ∀ r ∈ (gates.partition (·.canRun)).1, Ready view e.markUsed r := by
    intro r hr
    rw [List.partition_eq_filter_filter] at hr
    exact hgates r (List.mem_filter.mp hr).1
  dsimp only
  split
  · exact .seq .log (.pure rfl)
  · refine .seq .log ((Suite.twin_run hsuite hrunnable delay).bind ?_)
    rintro ran _ rfl
    split
    · exact .seq .log (.pure rfl)
    · exact .pure rfl

theorem markUsed_runGroup (delay : Nat) (suite : Suite σ) (e : Environment σ)
    (records : List (Record σ)) (w : World σ) :
    ((runGroup delay suite e records).run w).value.2.markUsed = e.markUsed := by
  have hrun := run_runGroup delay suite e records w
  dsimp only at hrun
  split at hrun
  · rw [hrun.1]
  · rw [hrun.1]
    rfl

theorem exists_origin_eq {records : List (Record σ)} {w : World σ}
    (hr : r ∈ ((records.mapM (gate e)).run w).value) : ∃ r₀ ∈ records, r₀.origin = r.origin := by
  have hgates := Task.map_value_mapM (origin_gate e) records w
  have hmem := (List.mem_map_of_mem hr : r.origin ∈ List.map Record.origin _)
  rw [hgates] at hmem
  exact List.mem_map.mp hmem

theorem view_runGroup {suite : Suite σ} (hsuite : suite.ObjectsLeave view e.markUsed)
    {records : List (Record σ)} (hbodies : ∀ r ∈ records, BodyLeaves view e.markUsed r)
    (delay : Nat) (w : World σ) :
    view ((runGroup delay suite e records).run w).world.state = view w.state := by
  have hrun := run_runGroup delay suite e records w
  have hgates := Task.world_mapM (world_gate e) records w
  dsimp only at hrun
  split at hrun
  · rw [hrun.2.2, hgates]
  · rw [hrun.2.2, Suite.view_run hsuite _ delay, hgates]
    intro r hr
    obtain ⟨r₀, hr₀, horigin⟩ := exists_origin_eq (List.mem_filter.mp hr).1
    rw [BodyLeaves, ← Record.testCase_eq_of_origin_eq horigin]
    exact hbodies r₀ hr₀

theorem tells_runGroup {delay : Nat} {suite : Suite σ} {records : List (Record σ)} {w : World σ}
    {m : RecordMessage}
    (hm : m ∈ ((runGroup delay suite e records).run w).journal.recordMessages) :
    ∃ r ∈ records, m.id = r.id := by
  have hgates {m : RecordMessage}
      (hm : m ∈ ((records.mapM (gate e)).run w).journal.recordMessages) :
      ∃ r ∈ records, m.id = r.id := by
    obtain ⟨r, hr, w, hm⟩ := Task.tells_mapM hm
    exact ⟨r, hr, tells_gate hm⟩
  have hrun := run_runGroup delay suite e records w
  dsimp only at hrun
  rw [← Journal.recordMessages_events] at hm
  split at hrun
  · rw [hrun.2.1, Journal.recordMessages_events] at hm
    exact hgates hm
  · rw [hrun.2.1, Journal.recordMessages_append, Journal.recordMessages_events,
      Journal.recordMessages_events, List.mem_append] at hm
    rcases hm with hm | hm
    · exact hgates hm
    · obtain ⟨r, hr, hid⟩ := Suite.tells_run _ _ _ _ _ hm
      obtain ⟨r₀, hr₀, horigin⟩ := exists_origin_eq (List.mem_filter.mp hr).1
      exact ⟨r₀, hr₀, hid.trans (Record.id_eq_of_origin_eq horigin).symm⟩

end Run

end Testbed
