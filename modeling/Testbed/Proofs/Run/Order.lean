import Testbed.Proofs.Registry.Attachment
import Testbed.Proofs.Run.Placement
import Testbed.Proofs.Suite.Rounds

/-! # The records of a run

A run of a selection of catalogued cases ends with the records that it has
started with, in the order of the selection, whatever happened to them in
between.
-/

namespace Testbed

variable {σ α β γ : Type}

theorem Task.map_value_mapM {f : α → Task σ β} {g : β → γ} {h : α → γ}
    (hf : ∀ a w, g ((f a).run w).value = h a) (xs : List α) (w : World σ) :
    ((xs.mapM f).run w).value.map g = xs.map h := by
  induction xs generalizing w with
  | nil => rfl
  | cons x xs ih => simp [List.mapM_cons, hf, ih]

theorem getElem?_flatMap_range {t : Nat} (ht : 0 < t) (f : α → Nat → β) (xs : List α) (j : Nat) :
    (xs.flatMap fun a => (List.range t).map (f a))[j]? = xs[j / t]?.map (f · (j % t)) := by
  induction xs generalizing j with
  | nil => simp
  | cons x xs ih =>
    rw [List.flatMap_cons]
    rcases Nat.lt_or_ge j t with hj | hj
    · rw [List.getElem?_append_left (by simpa using hj), Nat.div_eq_of_lt hj, Nat.mod_eq_of_lt hj]
      simp [hj]
    · obtain ⟨k, rfl⟩ := Nat.exists_eq_add_of_le hj
      rw [List.getElem?_append_right (by simp), Nat.add_div_left _ ht, Nat.add_mod_left]
      simpa using ih k

namespace Record

/-- The record as it was made, without what a run notes in it. -/
def origin (r : Record σ) : Record σ :=
  { r with
    environmentName := ""
    status := .notRun
    timer := {}
    log := ""
    environmentFacts := .empty
    finding := none }

@[simp] theorem origin_bind (r : Record σ) (e : Environment σ) : (r.bind e).origin = r.origin := rfl

@[simp] theorem origin_withStatus (r : Record σ) (status : Status) (text : String) (now : Nat) :
    (r.withStatus status text now).origin = r.origin := rfl

end Record

namespace Suite

theorem origin_runWith (suite : String) (hooks : Hooks σ) (delay : Nat) (e : Environment σ)
    (records : List (Record σ)) (w : World σ) :
    ((runWith suite hooks delay e records).run w).value.2.1.map Record.origin =
      records.map Record.origin := by
  obtain ⟨rounds, rest, rfl, -, hv, -⟩ := Job.run_run ⟨suite, hooks, e.markUsed, delay⟩ records w
  rw [run_runWith, hv]
  simp [Job.Round.final, Job.Round.started]

theorem origin_run (suite : Suite σ) (delay : Nat) (e : Environment σ) (records : List (Record σ))
    (w : World σ) :
    ((suite.run delay e records).run w).value.2.1.map Record.origin =
      records.map Record.origin :=
  origin_runWith suite.name (suite.create w.state).1 delay e records _

end Suite

namespace Run

theorem origin_gate (e : Environment σ) (r : Record σ) (w : World σ) :
    ((gate e r).run w).value.origin = r.origin := by
  simp only [gate, Record.check, Task.run_bind, Task.run_log, Task.run_pure, if_true]
  cases ((r.bind e).testCase.requirement.check e true).met <;> rfl

theorem run_runGroup (delay : Nat) (suite : Suite σ) (e : Environment σ)
    (records : List (Record σ)) (w : World σ) :
    let run := (runGroup delay suite e records).run w
    let gates := (records.mapM (gate e)).run w
    let runnable := gates.value.filter (·.canRun)
    let gated := gates.value.filter (!·.canRun)
    if runnable = [] then
      run.value = (gated, e) ∧ run.journal.events = gates.journal.events ∧
        run.world = gates.world
    else
      let ran := (suite.run delay e runnable).run gates.world
      run.value = (ran.value.2.1 ++ gated, ran.value.2.2) ∧
        run.journal.events = gates.journal.events ++ ran.journal.events ∧
        run.world = ran.world := by
  intro run gates runnable gated
  have hpartition : gates.value.partition (·.canRun) = (runnable, gated) :=
    List.partition_eq_filter_filter
  simp only [run, runGroup, Task.run_bind, gates, hpartition]
  split
  · simp [*]
  · rename_i hne
    simp only [List.isEmpty_iff, hne, if_false, Task.run_bind, Task.run_log]
    generalize (suite.run delay e runnable).run _ = ran
    obtain ⟨⟨outcome, records, e⟩, journal, world⟩ := ran
    cases outcome.setupError <;> simp

theorem runGroup_perm (delay : Nat) (suite : Suite σ) (e : Environment σ)
    (records : List (Record σ)) (w : World σ) :
    (((runGroup delay suite e records).run w).value.1.map Record.origin).Perm
      (records.map Record.origin) := by
  have hrun := run_runGroup delay suite e records w
  have hsplit := (List.filter_append_perm (·.canRun) ((records.mapM (gate e)).run w).value).map
    Record.origin
  rw [Task.map_value_mapM (origin_gate e), List.map_append] at hsplit
  dsimp only at hrun
  split at hrun
  · rename_i hempty
    rw [hrun.1]
    simpa [hempty] using hsplit
  · rw [hrun.1, List.map_append, Suite.origin_run]
    exact hsplit

variable {catalogue : Catalogue σ}

/-- If the suites are known, running the groups ends with the records that are in them. -/
theorem runGroups_perm (delay : Nat) (e : Environment σ) {groups : List (String × List (Record σ))}
    (hgroups : ∀ group ∈ groups, ∃ suite, catalogue.suite? group.1 = some suite) (w : World σ) :
    ∃ ran e', ((runGroups catalogue delay e groups).run w).value = (.ok ran, e') ∧
      (ran.map Record.origin).Perm ((groups.flatMap (·.2)).map Record.origin) := by
  induction groups generalizing e w with
  | nil => exact ⟨[], e, rfl, .refl _⟩
  | cons group groups ih =>
    obtain ⟨suite, hsuite⟩ := hgroups group List.mem_cons_self
    have hfirst := runGroup_perm delay suite e group.2 w
    obtain ⟨others, e', hothers, hperm⟩ :=
      ih ((runGroup delay suite e group.2).run w).value.2
        (fun group hgroup => hgroups group (List.mem_cons_of_mem _ hgroup))
        ((runGroup delay suite e group.2).run w).world
    refine ⟨((runGroup delay suite e group.2).run w).value.1 ++ others, e', ?_, ?_⟩
    · simp [runGroups, hsuite, hothers, Except.map]
    · rw [List.map_append, List.flatMap_cons, List.map_append]
      exact hfirst.append hperm

theorem exists_suite_of_groups {cases : List (Case σ)} (hcatalogue : catalogue.Frozen)
    (hcases : ∀ c ∈ cases, c ∈ catalogue.cases) (settings : Settings)
    {group : String × List (Record σ)} (hgroup : group ∈ groups (settings.records cases)) :
    ∃ suite, catalogue.suite? group.1 = some suite := by
  obtain ⟨name, hname, rfl⟩ := List.mem_map.mp hgroup
  obtain ⟨r, hr, rfl⟩ := List.mem_map.mp (List.mem_eraseDups.mp hname)
  obtain ⟨c, hc, hrange⟩ := List.mem_flatMap.mp hr
  obtain ⟨iteration, -, rfl⟩ := List.mem_map.mp hrange
  obtain ⟨suite, hsuite, -⟩ := hcatalogue.exists_suite (hcases c hc)
  exact ⟨suite, hsuite⟩

namespace Settings

theorem toNat_iterations (settings : Settings) :
    settings.iterations.toNat = max settings.times.toNat 1 := by
  rw [iterations]
  split
  · rename_i h
    simp [h]
  · rename_i h
    have : settings.times.toNat ≠ 0 := fun h0 => h (UInt32.toNat_inj.mp h0)
    omega

theorem getElem?_records (settings : Settings) (cases : List (Case σ)) (j : Nat) :
    (settings.records cases)[j]? = cases[j / max settings.times.toNat 1]?.map
      (settings.record · (j % max settings.times.toNat 1)) := by
  rw [records, toNat_iterations]
  exact getElem?_flatMap_range (Nat.lt_of_lt_of_le Nat.one_pos (Nat.le_max_right ..)) _ cases j

theorem length_records (settings : Settings) (cases : List (Case σ)) :
    (settings.records cases).length = cases.length * max settings.times.toNat 1 := by
  rw [records, toNat_iterations, List.length_flatMap]
  simp only [List.length_map, List.length_range, List.map_const', List.sum_replicate_nat]

theorem ids_records (settings : Settings) (cases : List (Case σ)) :
    (settings.records cases).map (·.id) = cases.flatMap fun c =>
      (List.range (max settings.times.toNat 1)).map (recordId settings.runName c.fullName) := by
  rw [records, toNat_iterations, List.map_flatMap]
  simp [Function.comp_def, record]

end Settings

theorem run_mapM_start (records : List (Record σ)) (w : World σ) :
    (records.mapM Record.start).run w = ⟨records, records.map (·.told w.now), w⟩ := by
  induction records with
  | nil => rfl
  | cons r records ih =>
    have hstart : r.start.run w = ⟨r, [r.told w.now], w⟩ := rfl
    simp [List.mapM_cons, hstart, ih]

@[simp] theorem run_announce (runName : String) (status : RunStatus) (elapsed : Nat)
    (w : World σ) :
    ((announce runName status elapsed).run w).world = w := rfl

theorem value_runCases (cases : List (Case σ)) (settings : Settings) (e : Environment σ)
    (w : World σ) :
    let records := settings.records cases
    let main := (runGroups catalogue settings.delay e (groups records)).run w
    ((runCases catalogue cases settings e).run w).value =
      (main.value.1.map (inOrder (records.map (·.id))), main.value.2) := by
  simp only [runCases, Task.run_bind, Task.run_now, run_announce, run_mapM_start]
  generalize (runGroups catalogue settings.delay e _).run w = main
  obtain ⟨⟨result, e'⟩, journal, world⟩ := main
  cases result <;> rfl

/-- The records that a run returns are those that its groups end with, put in order. -/
theorem map_perm_of_runCases {cases : List (Case σ)} {settings : Settings} {e : Environment σ}
    {w : World σ} {out : List (Record σ)} {f : Record σ → β} {shown : List β}
    (hout : ((runCases catalogue cases settings e).run w).value.1 = .ok out)
    (hshown : ((runGroups catalogue settings.delay e (groups (settings.records cases))).run
      w).value.1.toOption.map (·.map f) = some shown) : (out.map f).Perm shown := by
  rw [value_runCases] at hout
  generalize (runGroups catalogue settings.delay e _).run w = main at hout hshown
  obtain ⟨⟨result, e'⟩, journal, world⟩ := main
  cases result with
  | error cause => cases hout
  | ok ran =>
    cases hout
    cases hshown
    exact (inOrder_perm _ ran).map f

theorem origin_inOrder {records ran : List (Record σ)} (hids : (records.map (·.id)).Nodup)
    (hperm : (ran.map Record.origin).Perm (records.map Record.origin)) :
    (inOrder (records.map (·.id)) ran).map Record.origin = records.map Record.origin := by
  have hmap : (records.map Record.origin).map (fun r => position (records.map (·.id)) r.id) =
      List.range (records.map (·.id)).length := by
    rw [← map_position hids, List.map_map, List.map_map]
    rfl
  have hpermids : (ran.map (·.id)).Perm (records.map (·.id)) := by
    have h := hperm.map (·.id)
    rw [List.map_map, List.map_map] at h
    exact h
  refine perm_eq_of_map_eq (fun r => position (records.map (·.id)) r.id)
    (((inOrder_perm ..).map _).trans hperm) ?_ (hmap ▸ List.nodup_range)
  rw [hmap, ← map_position_inOrder hids hpermids, List.map_map]
  rfl

/-- A run of catalogued cases returns a record for each case and iteration, in the order of the
selection, with all that it was made with. -/
theorem runCases_order (hcatalogue : catalogue.Frozen) {cases : List (Case σ)}
    (hcases : ∀ c ∈ cases, c ∈ catalogue.cases) (settings : Settings)
    (hids : (cases.flatMap fun c => (List.range (max settings.times.toNat 1)).map
      (recordId settings.runName c.fullName)).Nodup) (e : Environment σ) (w : World σ) :
    let t := max settings.times.toNat 1
    ∃ out e', ((runCases catalogue cases settings e).run w).value = (.ok out, e') ∧
      out.length = cases.length * t ∧
      ∀ j r, out[j]? = some r → ∃ c, cases[j / t]? = some c ∧ r.testCase = c ∧
        r.id = recordId settings.runName c.fullName (j % t) ∧
        r.origin = settings.record c (j % t) := by
  intro t
  rw [← Settings.ids_records] at hids
  obtain ⟨ran, e', hran, hperm⟩ := runGroups_perm settings.delay e
    (fun _ => exists_suite_of_groups hcatalogue hcases settings) w
  replace hperm := hperm.trans ((groups_perm (settings.records cases)).map Record.origin)
  have hsame := origin_inOrder hids hperm
  refine ⟨_, e', by rw [value_runCases, hran]; rfl, ?_, ?_⟩
  · have hlength := congrArg List.length hsame
    rw [List.length_map, List.length_map] at hlength
    rw [hlength, Settings.length_records]
  · intro j r hr
    have hj := congrArg (·[j]?) hsame
    simp only [List.getElem?_map, hr, Settings.getElem?_records, Option.map_map,
      Option.map_some] at hj
    obtain ⟨c, hc, horigin⟩ := Option.map_eq_some_iff.mp hj.symm
    refine ⟨c, hc, ?_, ?_, horigin.symm⟩
    · exact (congrArg Record.testCase horigin).symm
    · exact (congrArg Record.id horigin).symm

/-- An environment of one node. -/
def oneNode : Environment σ where
  name := "local"
  stage := .connected
  nodes := [⟨"node", some .ubuntu, { name := "node" }, fun _ _ s => ⟨.ok ⟨0, "", ""⟩, [], s⟩⟩]

/-- Two suites whose cases are registered in turn. The first case is for Windows. -/
def alternating : Catalogue Unit where
  registry := (Registry.addAll {} [
    .suite { name := "a" }, .suite { name := "b" },
    .testCase {
      suiteName := "a"
      name := "x"
      ownRequirement := some ⟨[{}], .connected, none, some (.requireAny [.windows])⟩ },
    .testCase { suiteName := "b", name := "y" },
    .testCase { suiteName := "a", name := "z" }]).registry

/-- The groups end with `a.z`, `a.x` and `b.y`, so that the record that is left out moves as well as
those that are run. -/
theorem runCases_order_alternating :
    let settings : Settings := { runName := "run", times := 0 }
    ∃ out e', ((runCases alternating alternating.cases settings oneNode).run ⟨(), 0⟩).value =
        (.ok out, e') ∧
      out.map (fun r => (r.name, r.status)) =
        [("a.x", .skipped), ("b.y", .passed), ("a.z", .passed)] ∧
      ∀ j r, out[j]? = some r → ∃ c, alternating.cases[j / 1]? = some c ∧ r.testCase = c ∧
        r.id = recordId "run" c.fullName (j % 1) ∧ r.origin = settings.record c (j % 1) := by
  intro settings
  have hfrozen : alternating.Frozen :=
    ⟨alternating.registry, Registry.Reachable.empty.addAll (by simp [Registry.Item.Fresh]), rfl⟩
  have hcases : ∀ c ∈ alternating.cases, c ∈ alternating.cases := fun _ hc => hc
  obtain ⟨out, e', hrun, hlength, hplaced⟩ :=
    runCases_order hfrozen hcases settings (by decide +kernel) oneNode ⟨(), 0⟩
  have hselected : out.map (·.testCase) = alternating.cases := by
    refine List.ext_getElem (by rw [List.length_map, hlength]; rfl) fun j hj hj' => ?_
    obtain ⟨c, hc, hcase, -⟩ := hplaced j _ (List.getElem?_eq_getElem (by simpa using hj))
    rw [List.getElem_map, hcase]
    refine Option.some.inj (hc.symm.trans ?_)
    simp [settings]
  have hnames : out.map (·.name) = ["a.x", "b.y", "a.z"] := by
    have hfull := congrArg (·.map Case.fullName) hselected
    rwa [List.map_map] at hfull
  have hperm : (out.map fun r => (r.name, r.status)).Perm
      [("a.z", .passed), ("a.x", .skipped), ("b.y", .passed)] :=
    map_perm_of_runCases (congrArg Prod.fst hrun) (by decide +kernel)
  refine ⟨out, e', hrun, ?_, hplaced⟩
  refine perm_eq_of_map_eq (·.1) (hperm.trans (by decide)) ?_ (by decide)
  rwa [List.map_map]

end Run

end Testbed
