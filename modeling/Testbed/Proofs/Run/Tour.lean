import Testbed.Proofs.Run.Gate
import Testbed.Proofs.Run.Isolation
import Testbed.Proofs.Suite.Protocol

/-! # The tour of a run

What the calls of a run come to, and what they make of the state, is a tour of
the suites that have a record whose requirement is met: one visit for each, in
the order in which the selection names them first. All other records are left
out, and nothing of theirs is called.
-/

namespace Testbed

variable {σ α β : Type}

theorem Journal.acts_map_told (records : List (Record σ)) (now : Nat) :
    acts (records.map (·.told now)) = [] := by
  induction records with
  | nil => rfl
  | cons r records ih => exact ih

namespace Run

variable {catalogue : Catalogue σ} {e e' : Environment σ} {r : Record σ} {records : List (Record σ)}
  {delay : Nat} {plan : List (Suite σ × List (Record σ))} {w : World σ}

/-- Nothing that a gate looks at tells a used environment from a new one. -/
theorem leftOut_eq (h : e'.markUsed = e.markUsed) : leftOut (σ := σ) e' = leftOut e := by
  rw [Environment.eq_of_markUsed_eq h]
  rfl

theorem meets_eq (h : e'.markUsed = e.markUsed) (r : Record σ) : r.meets e' = r.meets e := by
  rw [Environment.eq_of_markUsed_eq h]
  rfl

/-- The visits that groups lead to. -/
def itinerary (catalogue : Catalogue σ) (e : Environment σ)
    (groups : List (String × List (Record σ))) : List (Suite σ × List (Record σ)) :=
  groups.flatMap fun group => (catalogue.suite? group.1).toList.flatMap fun suite =>
    visits suite ((group.2.filter (·.meets e)).map (examined e))

theorem itinerary_cons {group : String × List (Record σ)} {suite : Suite σ}
    (hsuite : catalogue.suite? group.1 = some suite) (groups : List (String × List (Record σ))) :
    itinerary catalogue e (group :: groups) =
      visits suite ((group.2.filter (·.meets e)).map (examined e)) ++
        itinerary catalogue e groups := by
  simp [itinerary, hsuite]

theorem itinerary_eq (h : e'.markUsed = e.markUsed) (groups : List (String × List (Record σ))) :
    itinerary catalogue e' groups = itinerary catalogue e groups := by
  rw [Environment.eq_of_markUsed_eq h]
  rfl

/-- Running groups of untouched records makes the tour of their itinerary. -/
theorem run_runGroups_untouched {groups : List (String × List (Record σ))}
    (hsuites : ∀ group ∈ groups, ∃ suite, catalogue.suite? group.1 = some suite)
    (hrecords : ∀ group ∈ groups, ∀ r ∈ group.2, r.Untouched) (delay : Nat) (e : Environment σ)
    (w : World σ) :
    let run := (runGroups catalogue delay e groups).run w
    let toured := (tour delay e (itinerary catalogue e groups)).run w
    let left := ((groups.flatMap (·.2)).filter (!·.meets e)).map (leftOut e)
    ∃ out, run.value = (.ok out, toured.value.2) ∧ out.Perm (toured.value.1 ++ left) ∧
      run.journal.acts = toured.journal.acts ∧ run.world = toured.world := by
  induction groups generalizing e w with
  | nil => exact ⟨[], rfl, .refl _, rfl, rfl⟩
  | cons group groups ih =>
    obtain ⟨⟨suite, hsuite⟩, hsuites⟩ := List.forall_mem_cons.mp hsuites
    obtain ⟨hgroup, hrecords⟩ := List.forall_mem_cons.mp hrecords
    obtain ⟨hvalue, hevents, hworld⟩ := run_runGroup_untouched (e := e) hgroup delay suite w
    have hused := markUsed_runGroup delay suite e group.2 w
    rw [run_runGroups_cons hsuite, itinerary_cons hsuite, run_tour_append]
    dsimp only
    rw [hvalue] at hused ⊢
    rw [hworld]
    generalize (tour delay e (visits suite _)).run w = visited at *
    obtain ⟨others, hothers, hperm, hacts, hworld'⟩ :=
      ih hsuites hrecords visited.value.2 visited.world
    rw [itinerary_eq hused] at hothers hperm hacts hworld'
    rw [leftOut_eq hused] at hperm
    simp only [meets_eq hused] at hperm
    rw [hothers, hworld']
    refine ⟨_, rfl, ?_, ?_, rfl⟩
    · rw [List.flatMap_cons, List.filter_append, List.map_append, List.append_assoc]
      refine (List.Perm.of_eq (List.append_assoc ..)).trans (List.Perm.append_left _ ?_)
      exact (hperm.append_left _).trans (List.perm_append_comm_assoc ..)
    · rw [Journal.acts_append, Journal.acts_append, hacts, ← Journal.acts_events, hevents,
        Journal.acts_append, Journal.acts_map_told, Journal.acts_events]
      rfl

/-- The records of a suite whose requirement is met. -/
def remaining (e : Environment σ) (records : List (Record σ)) (suite : String) :
    List (Record σ) :=
  records.filter fun r => r.meets e && r.testCase.suiteName = suite

theorem filter_group (records : List (Record σ)) (name : String) :
    (records.filter fun r => r.testCase.suiteName = name).filter (·.meets e) =
      remaining e records name :=
  List.filter_filter

theorem mem_itinerary (hcatalogue : catalogue.Frozen) {visit : Suite σ × List (Record σ)}
    (hvisit : visit ∈ itinerary catalogue e (groups records)) :
    visit.1 ∈ catalogue.suites ∧
      visit.2 = (remaining e records visit.1.name).map (examined e) := by
  simp only [itinerary, groups, visits, List.mem_flatMap, List.mem_map, Option.mem_toList] at hvisit
  obtain ⟨_, ⟨name, -, rfl⟩, suite, hsuite, hvisit⟩ := hvisit
  obtain ⟨hmem, rfl⟩ := hcatalogue.suite?_eq_some.mp hsuite
  rw [filter_group] at hvisit
  split at hvisit
  · exact absurd hvisit List.not_mem_nil
  · obtain rfl := List.mem_singleton.mp hvisit
    exact ⟨hmem, rfl⟩

@[simp] theorem acts_announce (runName : String) (status : RunStatus) (elapsed : Nat)
    (w : World σ) : ((announce runName status elapsed).run w).journal.acts = [] := rfl

@[simp] theorem acts_finish (settings : Settings) (began : Nat) (records : List (Record σ))
    (w : World σ) : ((finish settings began records).run w).journal.acts = [] := rfl

@[simp] theorem world_finish (settings : Settings) (began : Nat) (records : List (Record σ))
    (w : World σ) : ((finish settings began records).run w).world = w := rfl

theorem acts_runCases (catalogue : Catalogue σ) (cases : List (Case σ)) (settings : Settings)
    (e : Environment σ) (w : World σ) :
    let run := (runCases catalogue cases settings e).run w
    let main := (runGroups catalogue settings.delay e (groups (settings.records cases))).run w
    run.journal.acts = main.journal.acts ∧ run.world = main.world := by
  simp only [runCases, Task.run_bind, Task.run_now, run_announce, run_mapM_start]
  generalize (runGroups catalogue settings.delay e _).run w = main
  obtain ⟨⟨result, e'⟩, journal, world⟩ := main
  cases result
  · simp [Journal.acts_map_told]
  · simp [Journal.acts_map_told]

/-- Running catalogued cases makes the tour of the itinerary of their groups. -/
theorem run_runCases_tour (hcatalogue : catalogue.Frozen) {cases : List (Case σ)}
    (hcases : ∀ c ∈ cases, c ∈ catalogue.cases) (settings : Settings) (e : Environment σ)
    (w : World σ) :
    let records := settings.records cases
    let run := (runCases catalogue cases settings e).run w
    let toured := (tour settings.delay e (itinerary catalogue e (groups records))).run w
    ∃ out, run.value = (.ok out, toured.value.2) ∧
      out.Perm (toured.value.1 ++ (records.filter (!·.meets e)).map (leftOut e)) ∧
      run.journal.acts = toured.journal.acts ∧ run.world = toured.world := by
  intro records run toured
  obtain ⟨ran, hran, hperm, hacts, hworld⟩ := run_runGroups_untouched
    (fun _ => exists_suite_of_groups hcatalogue hcases settings)
    (settings.untouched_groups cases) settings.delay e w
  obtain ⟨hacts', hworld'⟩ := acts_runCases catalogue cases settings e w
  refine ⟨inOrder (records.map (·.id)) ran, ?_, ?_, hacts'.trans hacts, hworld'.trans hworld⟩
  · exact (value_runCases cases settings e w).trans (by rw [hran]; rfl)
  · refine (inOrder_perm ..).trans (hperm.trans (List.Perm.append_left _ (List.Perm.map _ ?_)))
    exact (groups_perm records).filter _

section Plan

variable (hplan : ∀ visit ∈ plan, visit.2 = (remaining e records visit.1.name).map (examined e))

include hplan

end Plan

/-- A case that any deployed environment can host. -/
def modest (suiteName name : String) : Case Unit :=
  { suiteName, name, ownRequirement := some ⟨[], .deployed, none, none⟩ }

/-- The cases of the suites that a deployed environment can host are some, none and all. -/
def mixed : Catalogue Unit where
  registry := (Registry.addAll {} [
    .suite { name := "a" }, .suite { name := "c" }, .suite { name := "b" },
    .testCase { suiteName := "a", name := "z" }, .testCase { suiteName := "c", name := "y" },
    .testCase (modest "b" "w"), .testCase (modest "a" "x")]).registry

theorem frozen_mixed : mixed.Frozen :=
  ⟨mixed.registry, Registry.Reachable.empty.addAll (by simp [Registry.Item.Fresh, modest]), rfl⟩

end Run

end Testbed
