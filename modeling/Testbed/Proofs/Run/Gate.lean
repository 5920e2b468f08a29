import Mathlib.Data.List.Basic
import Testbed.Proofs.Requirement.Explanation
import Testbed.Proofs.Run.Group

/-! # The gate of a group

Records to which nothing has happened yet are either handed to the suite run or
left out with the reasons of the check. What a group does is therefore what a
tour of at most one visit does, a suite run with the records that are handed to
it, and what is told of the records that are left out.
-/

namespace Testbed

variable {σ α β : Type}

/-- A test that tells the two kinds of items apart finds both kinds in order. -/
theorem filter_map_ite {p : α → Bool} {f g : α → β} {q : β → Bool} {xs : List α}
    (hq : ∀ x ∈ xs, q (if p x then f x else g x) = p x) :
    (xs.map fun x => if p x then f x else g x).filter q = (xs.filter p).map f ∧
      (xs.map fun x => if p x then f x else g x).filter (!q ·) = (xs.filter (!p ·)).map g := by
  induction xs with
  | nil => exact ⟨rfl, rfl⟩
  | cons x xs ih =>
    obtain ⟨hx, hxs⟩ := List.forall_mem_cons.mp hq
    obtain ⟨hf, hg⟩ := ih hxs
    cases hp : p x with
    | true =>
      rw [hp, if_pos rfl] at hx
      simp [hp, hx, hf, hg]
    | false =>
      rw [hp, if_neg Bool.false_ne_true] at hx
      simp [hp, hx, hf, hg]

theorem flatMap_ite (p : α → Bool) (f : α → β) (xs : List α) :
    (xs.flatMap fun x => if p x then [] else [f x]) = (xs.filter (!p ·)).map f := by
  induction xs with
  | nil => rfl
  | cons x xs ih => cases hp : p x <;> simp [hp, ih]

theorem Journal.events_flatMap (f : α → Journal) (xs : List α) :
    events (xs.flatMap f) = xs.flatMap fun x => (f x).events :=
  List.filter_flatMap

namespace Record

/-- Nothing has been noted in the record yet. -/
def Untouched (r : Record σ) : Prop :=
  r.origin = r

/-- Whether the environment has what the case requires. -/
def meets (e : Environment σ) (r : Record σ) : Bool :=
  (r.testCase.requirement.check e true).met

variable {e : Environment σ} {r : Record σ}

theorem Untouched.status (h : r.Untouched) : r.status = .notRun := by
  rw [← h]
  rfl

theorem Untouched.log (h : r.Untouched) : r.log = "" := by
  rw [← h]
  rfl

theorem Untouched.timer (h : r.Untouched) : r.timer = {} := by
  rw [← h]
  rfl

theorem Untouched.finding (h : r.Untouched) : r.finding = none := by
  rw [← h]
  rfl

end Record

namespace Run.Settings

variable (settings : Settings) (cases : List (Case σ))

theorem untouched_records : ∀ r ∈ settings.records cases, r.Untouched := by
  intro r hr
  obtain ⟨c, -, hr⟩ := List.mem_flatMap.mp hr
  obtain ⟨iteration, -, rfl⟩ := List.mem_map.mp hr
  rfl

theorem untouched_groups :
    ∀ group ∈ groups (settings.records cases), ∀ r ∈ group.2, r.Untouched := by
  intro group hgroup r hr
  obtain ⟨name, -, rfl⟩ := List.mem_map.mp hgroup
  exact settings.untouched_records cases r (List.mem_filter.mp hr).1

end Run.Settings

namespace Run

variable {e : Environment σ} {r : Record σ} {records : List (Record σ)}

/-- The record as it ends if its requirement is not met. -/
def leftOut (e : Environment σ) (r : Record σ) : Record σ :=
  { examined e r with
    status := .skipped
    log := s!"no available environment: {(r.testCase.requirement.check e true).explain}" }

theorem run_gate (hr : r.Untouched) (w : World σ) :
    let run := (gate e r).run w
    run.value = (if r.meets e then examined e r else leftOut e r) ∧
      run.journal.events = if r.meets e then [] else [(leftOut e r).told w.now] := by
  have hexplain : (examined e r).explain = (r.testCase.requirement.check e true).explain := by
    simp [Record.explain, examined, Record.withFinding, Record.bind, hr.finding]
  have hset : (examined e r).withStatus .skipped
      s!"no available environment: {(r.testCase.requirement.check e true).explain}" w.now =
        leftOut e r := by
    simp [Record.withStatus, leftOut, appendLine, examined, Record.withFinding, Record.bind,
      hr.log, hr.status, hr.timer, Timer.stop, Timer.elapsed, toString]
  rw [gate_eq, Task.run_bind]
  cases hmeets : r.meets e with
  | true =>
    rw [Record.meets] at hmeets
    simp [hmeets]
  | false =>
    rw [Record.meets] at hmeets
    simp [hmeets, Record.run_set, hexplain, hset, Record.told]

theorem canRun_gate (hr : r.Untouched) :
    (if r.meets e then examined e r else leftOut e r).canRun = r.meets e := by
  cases hmeets : r.meets e with
  | true => simpa [examined, Record.withFinding, Record.bind, Record.canRun] using hr.status
  | false => simp [leftOut, Record.canRun]

/-- What is handed to the suite run, in a list of at most one visit. -/
def visits (suite : Suite σ) (handed : List (Record σ)) : List (Suite σ × List (Record σ)) :=
  if handed.isEmpty then [] else [(suite, handed)]

/-- Suite runs over one environment, one after the other. -/
def tour (delay : Nat) (e : Environment σ) :
    List (Suite σ × List (Record σ)) → Task σ (List (Record σ) × Environment σ)
  | [] => pure ([], e)
  | (suite, handed) :: rest => do
    let (_, ran, e) ← suite.run delay e handed
    let (others, e) ← tour delay e rest
    pure (ran ++ others, e)

theorem run_tour_append (delay : Nat) (e : Environment σ)
    (first rest : List (Suite σ × List (Record σ))) (w : World σ) :
    let run := (tour delay e first).run w
    let others := (tour delay run.value.2 rest).run run.world
    (tour delay e (first ++ rest)).run w =
      ⟨(run.value.1 ++ others.value.1, others.value.2), run.journal ++ others.journal,
        others.world⟩ := by
  induction first generalizing e w with
  | nil => rfl
  | cons visit first ih =>
    obtain ⟨suite, handed⟩ := visit
    simp [tour, ih]

/-- A group of untouched records makes one visit with the records whose requirement is met, or none
if there are no such records. The others are told of as left out, and follow. -/
theorem run_runGroup_untouched (hrecords : ∀ r ∈ records, r.Untouched) (delay : Nat)
    (suite : Suite σ) (w : World σ) :
    let run := (runGroup delay suite e records).run w
    let left := (records.filter (!·.meets e)).map (leftOut e)
    let visited :=
      (tour delay e (visits suite ((records.filter (·.meets e)).map (examined e)))).run w
    run.value = (visited.value.1 ++ left, visited.value.2) ∧
      run.journal.events = left.map (·.told w.now) ++ visited.journal.events ∧
      run.world = visited.world := by
  intro run left visited
  have hgates := Task.run_mapM (world_gate e) records w
  have hvalue : ((records.mapM (gate e)).run w).value =
      records.map fun r => if r.meets e then examined e r else leftOut e r := by
    rw [hgates]
    exact List.map_congr_left fun r hr => (run_gate (hrecords r hr) w).1
  have hevents : ((records.mapM (gate e)).run w).journal.events = left.map (·.told w.now) := by
    rw [hgates, Journal.events_flatMap,
      List.flatMap_congr fun r hr => (run_gate (hrecords r hr) w).2, flatMap_ite, List.map_map]
    rfl
  obtain ⟨hhanded, hleft⟩ :=
    filter_map_ite (p := (·.meets e)) fun r hr => canRun_gate (hrecords r hr)
  rw [← hvalue] at hhanded hleft
  have hrun := run_runGroup delay suite e records w
  dsimp only at hrun
  rw [hhanded, hleft, hevents, Task.world_mapM (world_gate e)] at hrun
  simp only [visited, visits, List.isEmpty_iff]
  split at hrun
  · rename_i hnone
    rw [if_pos hnone]
    simpa [tour] using hrun
  · rename_i hsome
    rw [if_neg hsome]
    simpa [tour] using hrun

end Run

end Testbed
