import Testbed.Proofs.Run.Group

/-! # Separate suites

Suites are separate if each of them has a part of the state to itself. In a run
of groups, one after the other, those of a suite come out as they do when the
groups of other suites are left out.
-/

namespace Testbed

variable {σ τ : Type}

/-- The messages about one record. -/
def Journal.about (id : String) (j : Journal) : List RecordMessage :=
  j.recordMessages.filter fun m => m.id = id

theorem Journal.about_append (id : String) (a b : Journal) :
    about id (a ++ b) = a.about id ++ b.about id := by
  rw [about, recordMessages_append, List.filter_append, about, about]

theorem Environment.eq_of_markUsed_eq {e e' : Environment σ} (h : e'.markUsed = e.markUsed) :
    e' = { e with isNew := e'.isNew } := by
  cases e
  cases e'
  simp only [markUsed, Environment.mk.injEq] at h ⊢
  simp [h]

/-- Each suite has a part of the state to itself, which `view` shows under its name. What the suite
object and the bodies of the cases do, by themselves and on the nodes of the environment, depends
on this part only and changes no other. -/
structure Catalogue.Separate (catalogue : Catalogue σ) (view : String → σ → τ)
    (e : Environment σ) : Prop where
  objects : ∀ suite ∈ catalogue.suites, suite.TwinObjects (view suite.name) e.markUsed
  bodies : ∀ c ∈ catalogue.cases,
    (c.body ⟨e.markUsed, c.name⟩).Twin (view c.suiteName) (c.body ⟨e.markUsed, c.name⟩)
  objects_leave : ∀ suite ∈ catalogue.suites, ∀ other, other ≠ suite.name →
    suite.ObjectsLeave (view other) e.markUsed
  bodies_leave : ∀ c ∈ catalogue.cases, ∀ other, other ≠ c.suiteName →
    (c.body ⟨e.markUsed, c.name⟩).Leaves (view other)

namespace Run

open Suite.Job

/-- The record of a catalogued case of the suite, before it is run. -/
structure Fresh (catalogue : Catalogue σ) (suite : String) (r : Record σ) : Prop where
  idle : r.Idle
  known : r.testCase ∈ catalogue.cases
  suiteName : r.testCase.suiteName = suite

/-- The group holds fresh records of a suite that is known. -/
structure Fits (catalogue : Catalogue σ) (group : String × List (Record σ)) : Prop where
  suite : ∃ suite ∈ catalogue.suites, suite.name = group.1 ∧
    catalogue.suite? group.1 = some suite
  records : ∀ r ∈ group.2, Fresh catalogue group.1 r

variable {catalogue : Catalogue σ} {view : String → σ → τ} {e e₁ e₂ : Environment σ}
  {suite : Suite σ} {records : List (Record σ)} {home : String} {w w' : World σ}

theorem Fresh.ready {r : Record σ} (h : Fresh catalogue home r)
    (hseparate : catalogue.Separate view e) : Ready (view home) e.markUsed r where
  idle := h.idle
  body := by
    rw [← h.suiteName]
    exact hseparate.bodies r.testCase h.known

theorem Fresh.bodyLeaves {r : Record σ} {other : String} (h : Fresh catalogue other r)
    (hseparate : catalogue.Separate view e) (hhome : home ≠ other) :
    BodyLeaves (view home) e.markUsed r :=
  hseparate.bodies_leave r.testCase h.known home (h.suiteName ▸ hhome)

theorem run_runGroups_cons {name : String} (hsuite : catalogue.suite? name = some suite)
    (records : List (Record σ)) (rest : List (String × List (Record σ))) (delay : Nat)
    (w : World σ) :
    (runGroups catalogue delay e ((name, records) :: rest)).run w =
      let first := (runGroup delay suite e records).run w
      let others := (runGroups catalogue delay first.value.2 rest).run first.world
      ⟨(others.value.1.map (first.value.1 ++ ·), others.value.2),
        first.journal ++ others.journal, others.world⟩ := by
  simp [runGroups, hsuite]

section Group

variable (hrecords : ∀ r ∈ records, Fresh catalogue suite.name r) (delay : Nat)

include hrecords

theorem suiteName_of_mem_runGroup {r : Record σ}
    (hr : r ∈ ((runGroup delay suite e records).run w).value.1) :
    r.testCase.suiteName = suite.name := by
  have hmem := (runGroup_perm delay suite e records w).mem_iff.mp (List.mem_map_of_mem hr)
  obtain ⟨r₀, hr₀, horigin⟩ := List.mem_map.mp hmem
  rw [← Record.testCase_eq_of_origin_eq horigin]
  exact (hrecords r₀ hr₀).suiteName

theorem filter_runGroup (home : String) :
    ((runGroup delay suite e records).run w).value.1.filter
        (fun r => r.testCase.suiteName = home) =
      if suite.name = home then ((runGroup delay suite e records).run w).value.1 else [] := by
  split
  · rename_i hhome
    refine List.filter_eq_self.mpr fun r hr => ?_
    rw [suiteName_of_mem_runGroup hrecords delay hr]
    simpa using hhome
  · rename_i hhome
    refine List.filter_eq_nil_iff.mpr fun r hr => ?_
    rw [suiteName_of_mem_runGroup hrecords delay hr]
    simpa using hhome

/-- The part of the state that belongs to the suite of a group decides what becomes of the group. -/
theorem runGroup_own (hseparate : catalogue.Separate view e) (hsuite : suite ∈ catalogue.suites)
    (he₁ : e₁.markUsed = e.markUsed) (he₂ : e₂.markUsed = e.markUsed)
    (hview : view suite.name w.state = view suite.name w'.state) :
    let all := (runGroup delay suite e₁ records).run w
    let own := (runGroup delay suite e₂ records).run w'
    own.value.1 = all.value.1 ∧ (∀ id, own.journal.about id = all.journal.about id) ∧
      view suite.name all.world.state = view suite.name own.world.state := by
  have hobjects := hseparate.objects suite hsuite
  have hready : ∀ r ∈ records, Ready (view suite.name) e.markUsed r :=
    fun r hr => (hrecords r hr).ready hseparate
  rw [← he₁] at hobjects hready
  rw [Environment.eq_of_markUsed_eq (he₂.trans he₁.symm)]
  have hlead : (w'.now : Int) = w.now + ((w'.now : Int) - w.now) := by omega
  obtain ⟨hvalue, hevents, hworld⟩ :=
    twin_runGroup hobjects hready delay e₂.isNew w w' ⟨hview, hlead⟩
  refine ⟨hvalue.symm, fun id => ?_, hworld.view⟩
  rw [Journal.about, Journal.about, ← Journal.recordMessages_events, ← hevents,
    Journal.recordMessages_events]

/-- The group of one suite does not touch what belongs to another. -/
theorem runGroup_other (hseparate : catalogue.Separate view e) (hsuite : suite ∈ catalogue.suites)
    (he₁ : e₁.markUsed = e.markUsed) (hhome : home ≠ suite.name) (w : World σ) :
    view home ((runGroup delay suite e₁ records).run w).world.state = view home w.state := by
  have hobjects := hseparate.objects_leave suite hsuite home hhome
  have hbodies : ∀ r ∈ records, BodyLeaves (view home) e.markUsed r :=
    fun r hr => (hrecords r hr).bodyLeaves hseparate hhome
  rw [← he₁] at hobjects hbodies
  exact view_runGroup hobjects hbodies delay w

end Group

theorem about_runGroup (delay : Nat) (suite : Suite σ) (e : Environment σ) (w : World σ)
    {id : String} (hid : ∀ r ∈ records, r.id ≠ id) :
    ((runGroup delay suite e records).run w).journal.about id = [] := by
  refine List.filter_eq_nil_iff.mpr fun m hm => ?_
  obtain ⟨r, hr, hmid⟩ := tells_runGroup hm
  simpa [hmid] using hid r hr

/-- A run of groups shows the run of those of one suite. -/
theorem runGroups_filter (hseparate : catalogue.Separate view e) (home : String)
    {groups : List (String × List (Record σ))} (hfits : ∀ group ∈ groups, Fits catalogue group)
    (he₁ : e₁.markUsed = e.markUsed) (he₂ : e₂.markUsed = e.markUsed)
    (hview : view home w.state = view home w'.state) (delay : Nat) :
    let all := (runGroups catalogue delay e₁ groups).run w
    let own := (runGroups catalogue delay e₂ (groups.filter fun group => group.1 = home)).run w'
    ∃ ran, all.value.1 = .ok ran ∧
      own.value.1 = .ok (ran.filter fun r => r.testCase.suiteName = home) ∧
      ∀ id, (∀ group ∈ groups, group.1 ≠ home → ∀ r ∈ group.2, r.id ≠ id) →
        own.journal.about id = all.journal.about id := by
  -- the states show the suite the same all along, but what else is in them and the clocks differ
  induction groups generalizing e₁ e₂ w w' with
  | nil => exact ⟨[], rfl, rfl, fun _ _ => rfl⟩
  | cons group groups ih =>
    obtain ⟨name, records⟩ := group
    obtain ⟨⟨⟨suite, hsuite, rfl, hsuite?⟩, hrecords⟩, hrest⟩ := List.forall_mem_cons.mp hfits
    dsimp only at hsuite? hrecords
    have hused {e' : Environment σ} (he' : e'.markUsed = e.markUsed) (w : World σ) :
        ((runGroup delay suite e' records).run w).value.2.markUsed = e.markUsed :=
      (markUsed_runGroup ..).trans he'
    rw [run_runGroups_cons hsuite?]
    by_cases hhome : suite.name = home
    · subst hhome
      obtain ⟨hvalue, hfirst, hview⟩ :=
        runGroup_own hrecords delay hseparate hsuite he₁ he₂ hview
      obtain ⟨ran, hall, hown, habout⟩ := ih hrest (hused he₁ w) (hused he₂ w') hview
      rw [List.filter_cons_of_pos (by simp), run_runGroups_cons hsuite?]
      dsimp only
      rw [hall, hown, hvalue]
      refine ⟨_, rfl, ?_, fun id hid => ?_⟩
      · rw [List.filter_append, filter_runGroup hrecords delay, if_pos rfl]
        rfl
      · rw [Journal.about_append, Journal.about_append, hfirst id,
          habout id fun group hgroup => hid group (List.mem_cons_of_mem _ hgroup)]
    · have hfirst := runGroup_other hrecords delay hseparate hsuite he₁ (Ne.symm hhome) w
      obtain ⟨ran, hall, hown, habout⟩ := ih hrest (hused he₁ w) he₂ (hfirst.trans hview)
      rw [List.filter_cons_of_neg (by simpa using hhome)]
      dsimp only
      rw [hall, hown]
      refine ⟨_, rfl, ?_, fun id hid => ?_⟩
      · rw [List.filter_append, filter_runGroup hrecords delay, if_neg hhome, List.nil_append]
      · rw [Journal.about_append, about_runGroup delay suite e₁ w (hid _ List.mem_cons_self hhome),
          List.nil_append]
        exact habout id fun group hgroup => hid group (List.mem_cons_of_mem _ hgroup)

end Run

end Testbed
