import Testbed.Proofs.Registry.Invariant

/-! # Load order

Whether items can be registered, and what a registry then knows, depends on the
items and not on their order. Only the lists of suites and of cases show the
order, each of them its own.
-/

namespace Testbed

variable {σ : Type}

namespace Registry

def Item.suite? : Item σ → Option (Suite σ)
  | .suite s => some s
  | .testCase _ => none

def Item.case? : Item σ → Option (Case σ)
  | .suite _ => none
  | .testCase c => some c

def suitesIn (items : List (Item σ)) : List (Suite σ) :=
  items.filterMap Item.suite?

def casesIn (items : List (Item σ)) : List (Case σ) :=
  items.filterMap Item.case?

theorem suitesIn_cons (item : Item σ) (items : List (Item σ)) :
    suitesIn (item :: items) = suitesIn [item] ++ suitesIn items :=
  List.filterMap_append (l := [item])

theorem casesIn_cons (item : Item σ) (items : List (Item σ)) :
    casesIn (item :: items) = casesIn [item] ++ casesIn items :=
  List.filterMap_append (l := [item])

/-- Names under which suites and cases can be registered together. -/
structure Admissible (suiteNames fullNames : List String) : Prop where
  named : "" ∉ suiteNames
  suites : suiteNames.Nodup
  cases : fullNames.Nodup

namespace Admissible

variable {xs xs' ys ys' : List String}

theorem of_append (h : Admissible (xs ++ xs') (ys ++ ys')) : Admissible xs ys where
  named := fun hempty => h.named (List.mem_append_left _ hempty)
  suites := (List.nodup_append.mp h.suites).1
  cases := (List.nodup_append.mp h.cases).1

theorem perm (hx : xs.Perm xs') (hy : ys.Perm ys') (h : Admissible xs ys) : Admissible xs' ys' where
  named := fun hempty => h.named (hx.mem_iff.mpr hempty)
  suites := hx.nodup_iff.mp h.suites
  cases := hy.nodup_iff.mp h.cases

end Admissible

variable {r next : Registry σ} {item : Item σ} {items : List (Item σ)}

theorem Indexed.admissible (h : r.Indexed) :
    Admissible (r.suites.map (·.name)) (r.cases.map (·.fullName)) where
  named := fun hempty => by
    obtain ⟨suite, hsuite, hname⟩ := List.mem_map.mp hempty
    exact h.named suite hsuite hname
  suites := h.suites.nodup
  cases := h.cases.nodup

theorem not_refused {e : Error}
    (h : Admissible (r.suites.map (·.name) ++ (suitesIn [item]).map (·.name))
      (r.cases.map (·.fullName) ++ (casesIn [item]).map (·.fullName))) :
    ¬ Refused r item e := by
  intro hrefused
  cases hrefused with
  | emptyName hempty =>
    exact h.named (List.mem_append_right _ (List.mem_singleton.mpr hempty.symm))
  | suiteName _ hother heq =>
    exact (List.nodup_append.mp h.suites).2.2 _ (List.mem_map_of_mem hother) _
      List.mem_cons_self heq
  | caseName hother heq =>
    exact (List.nodup_append.mp h.cases).2.2 _ (List.mem_map_of_mem hother) _
      List.mem_cons_self heq

/-- What a registration has added. -/
theorem added_of_add (h : r.add item = .ok next) :
    next.suites = r.suites ++ suitesIn [item] ∧
      next.cases.map Case.detached = (r.cases ++ casesIn [item]).map Case.detached := by
  have hext := extended_of_add h
  rw [List.map_append]
  cases item with
  | suite suite => exact ⟨hext.1, hext.2.trans (List.append_nil _).symm⟩
  | testCase c => exact ⟨hext.1.trans (List.append_nil _).symm, hext.2⟩

theorem map_fullName_of_detached {cases cases' : List (Case σ)}
    (h : cases.map Case.detached = cases'.map Case.detached) :
    cases.map (·.fullName) = cases'.map (·.fullName) := by
  have hnames := congrArg (List.map Case.fullName) h
  rwa [List.map_map, List.map_map] at hnames

theorem error_addAll_eq_none_iff (h : r.Indexed) :
    (r.addAll items).error = none ↔
      Admissible (r.suites.map (·.name) ++ (suitesIn items).map (·.name))
        (r.cases.map (·.fullName) ++ (casesIn items).map (·.fullName)) := by
  induction items generalizing r with
  | nil =>
    simp only [addAll, suitesIn, casesIn, List.filterMap_nil, List.map_nil, List.append_nil,
      true_iff]
    exact h.admissible
  | cons item items ih =>
    rw [suitesIn_cons item items, casesIn_cons item items, List.map_append, List.map_append,
      ← List.append_assoc, ← List.append_assoc]
    cases hadd : r.add item with
    | error e =>
      rw [addAll, hadd]
      constructor
      · rintro ⟨⟩
      · intro hadmissible
        exact absurd ((add_eq_error_iff h).mp hadd) (not_refused hadmissible.of_append)
    | ok next =>
      obtain ⟨hsuites, hcases⟩ := added_of_add hadd
      have hnames := map_fullName_of_detached hcases
      rw [List.map_append] at hnames
      rw [addAll, hadd, ← List.map_append, ← hsuites, ← hnames]
      exact ih (h.add hadd)

/-- Whichever items were refused, the cases stand in the order in which they came. -/
theorem detached_addEach_sublist (r : Registry σ) (items : List (Item σ)) :
    ((r.addEach items).cases.map Case.detached).Sublist
      ((r.cases ++ casesIn items).map Case.detached) := by
  induction items generalizing r with
  | nil => simp [addEach, casesIn]
  | cons item items ih =>
    rw [addEach, casesIn_cons item items, ← List.append_assoc]
    refine (ih _).trans ?_
    rw [List.map_append, List.map_append]
    refine List.Sublist.append_right ?_ _
    rcases addAll_singleton r item with ⟨e, -, -, heq⟩ | ⟨next, hadd, -, rfl⟩
    · rw [heq, List.map_append]
      exact List.sublist_append_left _ _
    · exact (added_of_add hadd).2 ▸ List.Sublist.refl _

/-- The registry holds the items, each case with the suite that it names. -/
structure Holds (r : Registry σ) (items : List (Item σ)) : Prop where
  indexed : r.Indexed
  suites : r.suites = suitesIn items
  cases : r.cases = (casesIn items).map r.placed

theorem holds_nil : Holds ({} : Registry σ) [] where
  indexed := .empty
  suites := rfl
  cases := rfl

/-- A suite that comes later is given to the cases that have been waiting for it. -/
theorem placed_addSuite {suite : Suite σ} (hi : r.Indexed) (h : r.addSuite suite = .ok next)
    (c : Case σ) : next.placed c =
      if (r.placed c).suiteName = suite.name then (r.placed c).attach suite else r.placed c := by
  have hnone := suite?_eq_none_of_addSuite hi h
  rw [suiteName_placed, placed_eq next, suite?_addSuite hi h]
  by_cases hname : c.suiteName = suite.name
  · rw [if_pos hname, if_pos hname, placed_eq, Case.attach, hname, hnone, Option.or_none]
  · rw [if_neg hname, if_neg hname, placed_eq]

theorem placed_addCase {c : Case σ} (h : r.addCase c = .ok next) : next.placed = r.placed := by
  obtain ⟨-, rfl⟩ := addCase_eq_ok h
  rfl

namespace Holds

theorem add (h : r.Holds items) (hadd : r.add item = .ok next) : next.Holds (items ++ [item]) := by
  refine ⟨h.indexed.add hadd, ?_, ?_⟩
  · rw [suitesIn, List.filterMap_append, (added_of_add hadd).1, h.suites, suitesIn, suitesIn]
  · rw [casesIn, List.filterMap_append, List.map_append]
    cases item with
    | suite suite =>
      have hplaced := placed_addSuite h.indexed hadd
      obtain ⟨-, -, rfl⟩ := addSuite_eq_ok hadd
      rw [h.cases, List.map_map, List.filterMap_cons_none rfl, List.filterMap_nil, List.map_nil,
        List.append_nil]
      exact List.map_congr_left fun c _ => (hplaced c).symm
    | testCase c =>
      rw [placed_addCase hadd]
      obtain ⟨-, rfl⟩ := addCase_eq_ok hadd
      exact congrArg (· ++ [r.placed c]) h.cases

theorem addAll {more : List (Item σ)} (h : r.Holds items) (hnone : (r.addAll more).error = none) :
    (r.addAll more).registry.Holds (items ++ more) := by
  induction more generalizing r items with
  | nil => rwa [List.append_nil]
  | cons item more ih =>
    cases hadd : r.add item with
    | error e =>
      rw [Registry.addAll, hadd] at hnone
      cases hnone
    | ok next =>
      rw [Registry.addAll, hadd] at hnone ⊢
      rw [List.append_cons]
      exact ih (h.add hadd) hnone

variable {r' : Registry σ} {items' : List (Item σ)}

theorem suite?_eq (h : r.Holds items) (h' : r'.Holds items') (hperm : items.Perm items') :
    r.suite? = r'.suite? := by
  funext name
  refine Option.ext fun suite => ?_
  rw [h.indexed.suite?_eq_some, h'.indexed.suite?_eq_some, h.suites, h'.suites, suitesIn,
    (hperm.filterMap _).mem_iff, suitesIn]

theorem placed_congr (h : r.Holds items) (h' : r'.Holds items') (hperm : items.Perm items') :
    r.placed = r'.placed := by
  funext c
  rw [placed_eq, placed_eq, h.suite?_eq h' hperm]

theorem cases_perm (h : r.Holds items) (h' : r'.Holds items') (hperm : items.Perm items') :
    r.cases.Perm r'.cases := by
  rw [h.cases, h'.cases, h.placed_congr h' hperm]
  exact (hperm.filterMap _).map _

theorem case?_eq (h : r.Holds items) (h' : r'.Holds items') (hperm : items.Perm items') :
    r.case? = r'.case? := by
  funext fullName
  refine Option.ext fun c => ?_
  rw [h.indexed.case?_eq_some, h'.indexed.case?_eq_some, (h.cases_perm h' hperm).mem_iff]

theorem case?_fullName (h : r.Holds items) {c : Case σ} (hc : .testCase c ∈ items) :
    r.case? c.fullName = some (r.placed c) := by
  rw [h.indexed.case?_eq_some, h.cases]
  exact ⟨List.mem_map_of_mem (List.mem_filterMap.mpr ⟨_, hc, rfl⟩), fullName_placed r c⟩

theorem casesOf_eq (h : r.Holds items) (name : String) :
    (Catalogue.mk r).casesOf name =
      ((casesIn items).filter fun c => c.suiteName = name).map r.placed := by
  rw [Catalogue.casesOf, Catalogue.cases, h.cases, List.filter_map]
  simp only [Function.comp_def, suiteName_placed]

theorem freeze_iff (h : r.Holds items) (h' : r'.Holds items') (hperm : items.Perm items') :
    (∃ catalogue, r.freeze = .ok catalogue) ↔ ∃ catalogue, r'.freeze = .ok catalogue := by
  simp only [freeze_eq_ok_iff, exists_and_left, exists_eq, and_true]
  refine forall_congr' fun c => ?_
  rw [(h.cases_perm h' hperm).mem_iff]

end Holds

/-- The same items in another order can be registered or not just the same. If they can, every case
becomes the same case, with the suite it is attached to, and closed registries answer alike; cases
of a suite stand in the order in which they came. -/
theorem addAll_perm {items items' : List (Item σ)} (hperm : items.Perm items') :
    let r := (addAll {} items).registry
    let r' := (addAll {} items').registry
    ((addAll {} items).error = none ↔ (addAll {} items').error = none) ∧
      ((addAll {} items).error = none →
        (∀ c, .testCase c ∈ items → ∃ stored, stored.detached = c.detached ∧
          r.case? c.fullName = some stored ∧ r'.case? c.fullName = some stored) ∧
        ((∃ catalogue, r.freeze = .ok catalogue) ↔ ∃ catalogue, r'.freeze = .ok catalogue) ∧
        ∀ catalogue catalogue', r.freeze = .ok catalogue → r'.freeze = .ok catalogue' →
          (∀ name, catalogue.suite? name = catalogue'.suite? name) ∧
          (∀ fullName, catalogue.case? fullName = catalogue'.case? fullName) ∧
          ∀ name, (casesIn items).filter (fun c => c.suiteName = name) =
              (casesIn items').filter (fun c => c.suiteName = name) →
            catalogue.casesOf name = catalogue'.casesOf name) := by
  intro r r'
  have hiff : (addAll {} items).error = none ↔ (addAll {} items').error = none := by
    rw [error_addAll_eq_none_iff .empty, error_addAll_eq_none_iff .empty]
    have hsuites := ((hperm.filterMap Item.suite?).map (·.name))
    have hcases := ((hperm.filterMap Item.case?).map (·.fullName))
    exact ⟨.perm (hsuites.append_left _) (hcases.append_left _),
      .perm (hsuites.symm.append_left _) (hcases.symm.append_left _)⟩
  refine ⟨hiff, fun hnone => ?_⟩
  have h : r.Holds items := holds_nil.addAll hnone
  have h' : r'.Holds items' := holds_nil.addAll (hiff.mp hnone)
  refine ⟨fun c hc => ?_, h.freeze_iff h' hperm, fun catalogue catalogue' hfreeze hfreeze' => ?_⟩
  · refine ⟨r.placed c, detached_placed r c, h.case?_fullName hc, ?_⟩
    rw [← h.case?_eq h' hperm]
    exact h.case?_fullName hc
  · obtain ⟨-, rfl⟩ := freeze_eq_ok_iff.mp hfreeze
    obtain ⟨-, rfl⟩ := freeze_eq_ok_iff.mp hfreeze'
    refine ⟨congrFun (h.suite?_eq h' hperm), congrFun (h.case?_eq h' hperm), fun name horder => ?_⟩
    rw [h.casesOf_eq, h'.casesOf_eq, horder, h.placed_congr h' hperm]

/-- A suite, and another one whose name begins with its name. -/
def nested : List (Item Unit) :=
  [.suite { name := "Net", area := "net" }, .testCase { suiteName := "Net", name := "up" },
    .suite { name := "Net.sub", area := "sub" }, .testCase { suiteName := "Net.sub", name := "up" }]

theorem addAll_perm_nested :
    let r := (addAll {} nested).registry
    let r' := (addAll {} nested.reverse).registry
    nested.Perm nested.reverse ∧ (addAll {} nested.reverse).error = none ∧
      r.freeze = .ok ⟨r⟩ ∧ r'.freeze = .ok ⟨r'⟩ ∧
      (∀ fullName, r.case? fullName = r'.case? fullName) ∧
      (Catalogue.mk r).casesOf "Net.sub" = (Catalogue.mk r').casesOf "Net.sub" := by
  intro r r'
  have hperm : nested.Perm nested.reverse := (List.reverse_perm nested).symm
  have hnone : (addAll {} nested).error = none := rfl
  have hfreeze : r.freeze = .ok ⟨r⟩ := rfl
  have hfreeze' : r'.freeze = .ok ⟨r'⟩ := rfl
  obtain ⟨hiff, hsame⟩ := addAll_perm hperm
  obtain ⟨-, -, hcatalogues⟩ := hsame hnone
  obtain ⟨-, hcases, hcasesOf⟩ := hcatalogues ⟨r⟩ ⟨r'⟩ hfreeze hfreeze'
  exact ⟨hperm, hiff.mp hnone, hfreeze, hfreeze', hcases, hcasesOf "Net.sub" rfl⟩

end Registry

end Testbed
