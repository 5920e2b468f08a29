import Testbed.Proofs.Registry.Invariant
import Testbed.Proofs.Run.Separation

/-! # Isolation of suites

Suites whose objects and bodies share no state do not notice each other in a
run. What becomes of the cases of one suite, and what is told of them, is the
same as in a run of these cases alone.
-/

namespace Testbed

variable {σ τ : Type}

namespace Run

variable {catalogue : Catalogue σ} {view : String → σ → τ} {e : Environment σ} {w : World σ}

theorem Settings.records_filter (settings : Settings) (cases : List (Case σ)) (home : String) :
    settings.records (cases.filter fun c => c.suiteName = home) =
      (settings.records cases).filter fun r => r.testCase.suiteName = home := by
  rw [records, records]
  induction cases with
  | nil => rfl
  | cons c cases ih =>
    have hcase : ∀ r ∈ (List.range settings.iterations.toNat).map (settings.record c),
        r.testCase.suiteName = c.suiteName := by
      intro r hr
      obtain ⟨iteration, -, rfl⟩ := List.mem_map.mp hr
      rfl
    rw [List.flatMap_cons, List.filter_append, ← ih]
    by_cases hc : c.suiteName = home
    · have hall : ((List.range settings.iterations.toNat).map (settings.record c)).filter
          (fun r => r.testCase.suiteName = home) =
          (List.range settings.iterations.toNat).map (settings.record c) :=
        List.filter_eq_self.mpr fun r hr => by simpa [hcase r hr] using hc
      rw [List.filter_cons_of_pos (by simpa using hc), List.flatMap_cons, hall]
    · have hnone : ((List.range settings.iterations.toNat).map (settings.record c)).filter
          (fun r => r.testCase.suiteName = home) = [] :=
        List.filter_eq_nil_iff.mpr fun r hr => by simpa [hcase r hr] using hc
      rw [List.filter_cons_of_neg (by simpa using hc), hnone, List.nil_append]

theorem fits_of_mem_groups (hcatalogue : catalogue.Frozen) {cases : List (Case σ)}
    (hcases : ∀ c ∈ cases, c ∈ catalogue.cases) (settings : Settings)
    {group : String × List (Record σ)} (hgroup : group ∈ groups (settings.records cases)) :
    Fits catalogue group := by
  obtain ⟨suite, hsuite⟩ := exists_suite_of_groups hcatalogue hcases settings hgroup
  obtain ⟨hmem, hname⟩ := hcatalogue.suite?_eq_some.mp hsuite
  refine ⟨⟨suite, hmem, hname, hsuite⟩, fun r hr => ?_⟩
  obtain ⟨name, -, rfl⟩ := List.mem_map.mp hgroup
  obtain ⟨hr, hname⟩ := List.mem_filter.mp hr
  obtain ⟨c, hc, hrange⟩ := List.mem_flatMap.mp hr
  obtain ⟨iteration, -, rfl⟩ := List.mem_map.mp hrange
  exact ⟨rfl, hcases c hc, of_decide_eq_true hname⟩

@[simp] theorem recordMessages_announce (runName : String) (status : RunStatus) (elapsed : Nat)
    (w : World σ) : ((announce runName status elapsed).run w).journal.recordMessages = [] := rfl

@[simp] theorem recordMessages_finish (settings : Settings) (began : Nat)
    (records : List (Record σ)) (w : World σ) :
    ((finish settings began records).run w).journal.recordMessages = [] := rfl

theorem recordMessages_told (records : List (Record σ)) (now : Nat) :
    Journal.recordMessages (records.map (·.told now)) = records.map (·.message now) := by
  induction records with
  | nil => rfl
  | cons r records ih => rw [List.map_cons, Journal.recordMessages_told, ih, List.map_cons]

theorem recordMessages_runCases (cases : List (Case σ)) (settings : Settings)
    (e : Environment σ) (w : World σ) :
    let records := settings.records cases
    let main := (runGroups catalogue settings.delay e (groups records)).run w
    ((runCases catalogue cases settings e).run w).journal.recordMessages =
      records.map (·.message w.now) ++ main.journal.recordMessages := by
  simp only [runCases, Task.run_bind, Task.run_now, run_announce, run_mapM_start]
  generalize (runGroups catalogue settings.delay e _).run w = main
  obtain ⟨⟨result, e'⟩, journal, world⟩ := main
  cases result
  · simp [recordMessages_told]
  · simp [recordMessages_told]

theorem origin_runCases (hcatalogue : catalogue.Frozen) {cases : List (Case σ)}
    (hcases : ∀ c ∈ cases, c ∈ catalogue.cases) (settings : Settings)
    (hids : ((settings.records cases).map (·.id)).Nodup) (e : Environment σ) (w : World σ) :
    ∃ out e', ((runCases catalogue cases settings e).run w).value = (.ok out, e') ∧
      out.map Record.origin = (settings.records cases).map Record.origin := by
  obtain ⟨ran, e', hran, hperm⟩ := runGroups_perm settings.delay e
    (fun _ => exists_suite_of_groups hcatalogue hcases settings) w
  refine ⟨_, e', by rw [value_runCases, hran]; rfl, origin_inOrder hids ?_⟩
  exact hperm.trans ((groups_perm (settings.records cases)).map Record.origin)

theorem ids_eq_of_origin_eq {records ran : List (Record σ)}
    (h : ran.map Record.origin = records.map Record.origin) :
    ran.map (·.id) = records.map (·.id) := by
  have hids := congrArg (List.map (·.id)) h
  rwa [List.map_map, List.map_map] at hids

theorem origin_filter (records : List (Record σ)) (home : String) :
    (records.filter fun r => r.testCase.suiteName = home).map Record.origin =
      (records.map Record.origin).filter fun r => r.testCase.suiteName = home := by
  rw [List.filter_map]
  rfl

/-- Putting the records of one suite in order is part of putting all in order. -/
theorem inOrder_filter {records ran : List (Record σ)} (hids : (records.map (·.id)).Nodup)
    (hperm : (ran.map Record.origin).Perm (records.map Record.origin)) (home : String) :
    inOrder ((records.filter fun r => r.testCase.suiteName = home).map (·.id))
        (ran.filter fun r => r.testCase.suiteName = home) =
      (inOrder (records.map (·.id)) ran).filter fun r => r.testCase.suiteName = home := by
  have hsub : ((records.filter fun r => r.testCase.suiteName = home).map (·.id)).Nodup :=
    hids.sublist (List.filter_sublist.map _)
  have hpart : ((ran.filter fun r => r.testCase.suiteName = home).map Record.origin).Perm
      ((records.filter fun r => r.testCase.suiteName = home).map Record.origin) := by
    rw [origin_filter, origin_filter]
    exact hperm.filter _
  have hown := origin_inOrder hsub hpart
  have hall : ((inOrder (records.map (·.id)) ran).filter fun r =>
      r.testCase.suiteName = home).map Record.origin =
      (records.filter fun r => r.testCase.suiteName = home).map Record.origin := by
    rw [origin_filter, origin_filter, origin_inOrder hids hperm]
  refine perm_eq_of_map_eq (·.id)
    ((inOrder_perm ..).trans ((inOrder_perm (records.map (·.id)) ran).symm.filter _))
    (ids_eq_of_origin_eq (hown.trans hall.symm)) ?_
  rw [ids_eq_of_origin_eq hall]
  exact hsub

theorem about_runCases (cases : List (Case σ)) (settings : Settings) (e : Environment σ)
    (w : World σ) (id : String) :
    let records := settings.records cases
    let main := (runGroups catalogue settings.delay e (groups records)).run w
    ((runCases catalogue cases settings e).run w).journal.about id =
      (records.filter fun r => r.id = id).map (·.message w.now) ++ main.journal.about id := by
  rw [Journal.about, recordMessages_runCases, List.filter_append, List.filter_map]
  rfl

/-- A run of a selection shows the run of the cases of one suite. -/
theorem runCases_filter (hcatalogue : catalogue.Frozen) (hseparate : catalogue.Separate view e)
    {cases : List (Case σ)} (hcases : ∀ c ∈ cases, c ∈ catalogue.cases) {settings : Settings}
    (hids : ((settings.records cases).map (·.id)).Nodup) {out : List (Record σ)}
    (hout : ((runCases catalogue cases settings e).run w).value.1 = .ok out) (home : String) :
    let all := (runCases catalogue cases settings e).run w
    let own := (runCases catalogue (cases.filter fun c => c.suiteName = home) settings e).run w
    own.value.1 = .ok (out.filter fun r => r.testCase.suiteName = home) ∧
      ∀ id, (∀ r ∈ settings.records cases, r.id = id → r.testCase.suiteName = home) →
        own.journal.about id = all.journal.about id := by
  intro all own
  have hview : view home w.state = view home w.state := rfl
  obtain ⟨ran, hall, hown, habout⟩ := runGroups_filter hseparate home
    (fun _ => fits_of_mem_groups hcatalogue hcases settings) rfl rfl hview settings.delay
  rw [← groups_filter, ← Settings.records_filter] at hown habout
  constructor
  · obtain ⟨ran', e', hran', hperm⟩ := runGroups_perm settings.delay e
      (fun _ => exists_suite_of_groups hcatalogue hcases settings) w
    rw [hran'] at hall
    cases hall
    replace hperm := hperm.trans ((groups_perm (settings.records cases)).map Record.origin)
    rw [value_runCases, hran'] at hout
    cases hout
    simp only [own]
    rw [value_runCases]
    dsimp only
    rw [hown, Settings.records_filter]
    exact congrArg Except.ok (inOrder_filter hids hperm home)
  · intro id hid
    have hstart : ((settings.records cases).filter fun r => r.testCase.suiteName = home).filter
        (fun r => r.id = id) = (settings.records cases).filter fun r => r.id = id := by
      rw [List.filter_filter]
      refine List.filter_congr fun r hr => ?_
      by_cases hr' : r.id = id
      · simp [hr', hid r hr hr']
      · simp [hr']
    simp only [own, all]
    rw [about_runCases, about_runCases, habout id, Settings.records_filter]
    · rw [hstart]
    · intro group hgroup hhome r hr heq
      obtain ⟨name, -, rfl⟩ := List.mem_map.mp hgroup
      obtain ⟨hr, hname⟩ := List.mem_filter.mp hr
      exact hhome ((of_decide_eq_true hname).symm.trans (hid r hr heq))

/-- In a run with distinct identifiers, the records with one identifier belong to one suite. -/
theorem exists_home {records : List (Record σ)} (hids : (records.map (·.id)).Nodup) (id : String) :
    ∃ home, ∀ r ∈ records, r.id = id → r.testCase.suiteName = home := by
  by_cases hid : ∃ r ∈ records, r.id = id
  · obtain ⟨r, hr, rfl⟩ := hid
    refine ⟨r.testCase.suiteName, fun r' hr' heq => ?_⟩
    rw [eq_of_key_eq (·.id) hids hr' hr heq]
  · exact ⟨"", fun r hr heq => absurd ⟨r, hr, heq⟩ hid⟩

theorem suiteName_eq_of_id_eq {records out : List (Record σ)} (hids : (records.map (·.id)).Nodup)
    (horigin : out.map Record.origin = records.map Record.origin) {r r' : Record σ} (hr : r ∈ out)
    (hr' : r' ∈ records) (hid : r'.id = r.id) : r'.testCase.suiteName = r.testCase.suiteName := by
  have hmem : r.origin ∈ records.map Record.origin := horigin ▸ List.mem_map_of_mem hr
  obtain ⟨r₀, hr₀, hsame⟩ := List.mem_map.mp hmem
  have hid₀ : r'.id = r₀.id := hid.trans (Record.id_eq_of_origin_eq hsame).symm
  rw [eq_of_key_eq (·.id) hids hr' hr₀ hid₀, Record.testCase_eq_of_origin_eq hsame]

/-- Selections that agree on the cases of each suite lead to the same records and messages. -/
theorem runCases_regrouped (hcatalogue : catalogue.Frozen) (hseparate : catalogue.Separate view e)
    {cases : List (Case σ)} (hcases : ∀ c ∈ cases, c ∈ catalogue.cases) {settings : Settings}
    (hids : ((settings.records cases).map (·.id)).Nodup) {out : List (Record σ)}
    (hout : ((runCases catalogue cases settings e).run w).value.1 = .ok out)
    {others : List (Case σ)} (hothers : ∀ suite,
      others.filter (fun c => c.suiteName = suite) = cases.filter fun c => c.suiteName = suite) :
    ∃ out', ((runCases catalogue others settings e).run w).value.1 = .ok out' ∧ out'.Perm out ∧
      ∀ id, ((runCases catalogue others settings e).run w).journal.about id =
        ((runCases catalogue cases settings e).run w).journal.about id := by
  have hperm : others.Perm cases := perm_of_filter_eq (·.suiteName) hothers
  have hrecords : (settings.records others).Perm (settings.records cases) := hperm.flatMap_right _
  have hids' := (hrecords.map (·.id)).nodup_iff.mpr hids
  have hcases' : ∀ c ∈ others, c ∈ catalogue.cases := fun c hc => hcases c (hperm.mem_iff.mp hc)
  obtain ⟨out', e', hrun', -⟩ := origin_runCases hcatalogue hcases' settings hids' e w
  have hout' := congrArg Prod.fst hrun'
  have hfilter := runCases_filter hcatalogue hseparate hcases hids hout
  have hfilter' := runCases_filter hcatalogue hseparate hcases' hids' hout'
  simp only [hothers] at hfilter'
  refine ⟨out', hout', ?_, fun id => ?_⟩
  · refine perm_of_filter_eq (·.testCase.suiteName) fun suite => ?_
    exact Except.ok.inj ((hfilter' suite).1.symm.trans (hfilter suite).1)
  · obtain ⟨home, hhome⟩ := exists_home hids id
    have habout := (hfilter home).2 id hhome
    have habout' := (hfilter' home).2 id fun r hr => hhome r (hrecords.mem_iff.mp hr)
    exact habout'.symm.trans habout

/-- Suites do not interfere. Each suite's share of the records of a run, with all that is told of
them, is what a run of the selected cases of the suite ends with. Selections which agree on the
cases of each suite therefore lead to the same record under each identifier. -/
theorem runCases_isolated (hcatalogue : catalogue.Frozen) (hseparate : catalogue.Separate view e)
    {cases : List (Case σ)} (hcases : ∀ c ∈ cases, c ∈ catalogue.cases) (settings : Settings)
    (hids : (cases.flatMap fun c => (List.range (max settings.times.toNat 1)).map
      (recordId settings.runName c.fullName)).Nodup) (w : World σ) :
    let run (cases : List (Case σ)) := (runCases catalogue cases settings e).run w
    let part (cases : List (Case σ)) (suite : String) := cases.filter fun c => c.suiteName = suite
    ∃ out, (run cases).value.1 = .ok out ∧
      (∀ suite, ∃ own, (run (part cases suite)).value.1 = .ok own ∧
        own = out.filter (fun r => r.testCase.suiteName = suite) ∧
        ∀ r ∈ own,
          (run (part cases suite)).journal.about r.id = (run cases).journal.about r.id) ∧
      ∀ others, (∀ suite, part others suite = part cases suite) →
        ∃ out', (run others).value.1 = .ok out' ∧
          ∀ id, out'.find? (fun r => r.id = id) = out.find? (fun r => r.id = id) ∧
            (run others).journal.about id = (run cases).journal.about id := by
  intro run part
  rw [← Settings.ids_records] at hids
  obtain ⟨out, e', hrun, horigin⟩ := origin_runCases hcatalogue hcases settings hids e w
  have hout := congrArg Prod.fst hrun
  refine ⟨out, hout, fun suite => ?_, fun others hothers => ?_⟩
  · obtain ⟨hown, habout⟩ := runCases_filter hcatalogue hseparate hcases hids hout suite
    refine ⟨_, hown, rfl, fun r hr => habout r.id fun r' hr' hid => ?_⟩
    obtain ⟨hr, hsuite⟩ := List.mem_filter.mp hr
    exact (suiteName_eq_of_id_eq hids horigin hr hr' hid).trans (of_decide_eq_true hsuite)
  · obtain ⟨out', hout', hperm, habout⟩ :=
      runCases_regrouped hcatalogue hseparate hcases hids hout hothers
    have hkeys : (out.map (·.id)).Nodup := ids_eq_of_origin_eq horigin ▸ hids
    exact ⟨out', hout', fun id => ⟨find?_key_eq (·.id) hperm hkeys id, habout id⟩⟩

/-- Counts one more under a name. -/
def bump (name : String) (counts : String → Nat) : String → Nat :=
  fun other => if other = name then counts other + 1 else counts other

/-- A suite that counts its cases under its own name, and of which the setup comes out as told. -/
def tally (name : String) (setup : Except Interrupt Unit) : Suite (String → Nat) where
  name
  create := fun counts => (fun hook _ =>
    match hook with
    | .beforeSuite => fun counts => ⟨setup, false, [], counts⟩
    | .beforeCase => .modify (bump name)
    | _ => pure (), counts)

theorem twinObjects_tally (name : String) (setup : Except Interrupt Unit)
    (e : Environment (String → Nat)) : (tally name setup).TwinObjects (· name) e := by
  intro counts counts' hcounts
  refine ⟨fun hook _ counts counts' hcounts => ?_, hcounts⟩
  cases hook with
  | beforeCase => exact ⟨rfl, rfl, by simp [tally, Action.modify, bump, hcounts]⟩
  | _ => exact ⟨rfl, rfl, hcounts⟩

theorem objectsLeave_tally {name other : String} (hother : other ≠ name)
    (setup : Except Interrupt Unit) (e : Environment (String → Nat)) :
    (tally name setup).ObjectsLeave (· other) e := by
  intro counts
  refine ⟨fun hook _ counts => ?_, rfl⟩
  cases hook with
  | beforeCase => simp [tally, Action.modify, bump, hother]
  | _ => rfl

/-- The first case asks the run of its suite to stop, and the setup of the other suite fails. -/
def stopping : Catalogue (String → Nat) where
  registry := (Registry.addAll {} [
    .suite (tally "a" (.ok ())), .suite (tally "b" (.error (.failed "no disk"))),
    .testCase { suiteName := "a", name := "x", body := fun _ => .requestStop },
    .testCase { suiteName := "b", name := "y" },
    .testCase { suiteName := "a", name := "z" }]).registry

theorem suiteName_stopping {c : Case (String → Nat)} (hc : c ∈ stopping.cases) :
    c.suiteName = "a" ∨ c.suiteName = "b" := by
  have hmem : c ∈ [_, _, _] := hc
  simp only [List.mem_cons, List.not_mem_nil, or_false] at hmem
  rcases hmem with rfl | rfl | rfl
  · exact .inl rfl
  · exact .inr rfl
  · exact .inl rfl

theorem separate_stopping (e : Environment (String → Nat)) :
    stopping.Separate (fun name counts => counts name) e where
  objects := by
    intro suite hsuite
    have hmem : suite ∈ [tally "a" (.ok ()), tally "b" (.error (.failed "no disk"))] := hsuite
    simp only [List.mem_cons, List.not_mem_nil, or_false] at hmem
    rcases hmem with rfl | rfl <;> exact twinObjects_tally _ _ _
  bodies := by
    intro c hc
    have hmem : c ∈ [_, _, _] := hc
    simp only [List.mem_cons, List.not_mem_nil, or_false] at hmem
    rcases hmem with rfl | rfl | rfl <;> exact fun _ _ hcounts => ⟨rfl, rfl, hcounts⟩
  objects_leave := by
    intro suite hsuite other hother
    have hmem : suite ∈ [tally "a" (.ok ()), tally "b" (.error (.failed "no disk"))] := hsuite
    simp only [List.mem_cons, List.not_mem_nil, or_false] at hmem
    rcases hmem with rfl | rfl <;> exact objectsLeave_tally hother _ _
  bodies_leave := by
    intro c hc other _
    have hmem : c ∈ [_, _, _] := hc
    simp only [List.mem_cons, List.not_mem_nil, or_false] at hmem
    rcases hmem with rfl | rfl | rfl <;> exact fun _ => rfl

/-- The stop keeps `a.z` from being run, and `b.y` is skipped for the failed setup. -/
theorem runCases_isolated_stopping :
    let run (cases : List (Case (String → Nat))) :=
      (runCases stopping cases { runName := "run" } oneNode).run ⟨fun _ => 0, 0⟩
    let part (suite : String) := stopping.cases.filter fun c => c.suiteName = suite
    ∃ out, (run stopping.cases).value.1 = .ok out ∧
      (out.map fun r => (r.name, r.status, r.log)).Perm
        [("a.x", .passed, ""), ("a.z", .notRun, ""),
          ("b.y", .skipped, "before_suite: no disk")] ∧
      (∃ own, (run (part "b")).value.1 = .ok own ∧
        own = out.filter (fun r => r.testCase.suiteName = "b") ∧
        ∀ r ∈ own, (run (part "b")).journal.about r.id = (run stopping.cases).journal.about r.id) ∧
      ∃ out', (run (part "b" ++ part "a")).value.1 = .ok out' ∧
        ∀ id, out'.find? (fun r => r.id = id) = out.find? (fun r => r.id = id) := by
  intro run part
  have hgrouped (suite : String) : (part "b" ++ part "a").filter (fun c => c.suiteName = suite) =
      stopping.cases.filter fun c => c.suiteName = suite := by
    by_cases hsuite : suite = "a" ∨ suite = "b"
    · rcases hsuite with rfl | rfl <;> rfl
    · have hnone {c : Case (String → Nat)} (hc : c ∈ stopping.cases) :
          ¬ decide (c.suiteName = suite) = true := by
        rw [decide_eq_true_eq]
        rintro rfl
        exact hsuite (suiteName_stopping hc)
      rw [List.filter_append, List.filter_eq_nil_iff.mpr fun c hc => hnone hc,
        List.filter_eq_nil_iff.mpr fun c hc => hnone (List.mem_filter.mp hc).1,
        List.filter_eq_nil_iff.mpr fun c hc => hnone (List.mem_filter.mp hc).1]
      rfl
  have hfrozen : stopping.Frozen :=
    ⟨stopping.registry, Registry.Reachable.empty.addAll (by simp [Registry.Item.Fresh]), rfl⟩
  obtain ⟨out, hout, hpart, hothers⟩ := runCases_isolated hfrozen (separate_stopping oneNode)
    (fun _ hc => hc) { runName := "run" } (by decide +kernel) ⟨fun _ => 0, 0⟩
  obtain ⟨out', hout', hsame⟩ := hothers _ hgrouped
  exact ⟨out, hout, map_perm_of_runCases hout (by decide +kernel), hpart "b", out', hout',
    fun id => (hsame id).1⟩

end Run

end Testbed
