import Testbed.Registry.Basic

/-! # Indexes

A registry looks suites and cases up in two indexes. However it was filled, each
index gives every registered name its position and knows no other name. No name
is therefore registered twice.
-/

namespace Testbed

variable {σ α : Type}

/-- The index gives each of the names its position, and knows no other name. -/
def Indexes (index : List (String × Nat)) (names : List String) : Prop :=
  ∀ name i, index.lookup name = some i ↔ names[i]? = some name

namespace Indexes

variable {index : List (String × Nat)} {names : List String}

theorem nil : Indexes [] [] := by
  intro name i
  simp

theorem cons (h : Indexes index names) {name : String} (hname : name ∉ names) :
    Indexes ((name, names.length) :: index) (names ++ [name]) := by
  intro other i
  by_cases heq : other = name
  · subst heq
    rw [List.lookup_cons_self, Option.some_inj]
    constructor
    · rintro rfl
      exact List.getElem?_concat_length
    · intro hi
      rcases Nat.lt_or_ge i names.length with hlt | hge
      · rw [List.getElem?_append_left hlt] at hi
        exact absurd (List.mem_of_getElem? hi) hname
      · have hlong := (List.getElem?_eq_some_iff.mp hi).1
        rw [List.length_append, List.length_singleton] at hlong
        omega
  · rw [List.lookup_cons, beq_false_of_ne heq, h other i]
    constructor
    · intro hi
      rw [List.getElem?_append_left (List.getElem?_eq_some_iff.mp hi).1]
      exact hi
    · intro hi
      rcases Nat.lt_or_ge i names.length with hlt | hge
      · rwa [List.getElem?_append_left hlt] at hi
      · rw [List.getElem?_append_right hge] at hi
        exact absurd (List.mem_singleton.mp (List.mem_of_getElem? hi)) heq

theorem nodup (h : Indexes index names) : names.Nodup := by
  rw [List.nodup_iff_pairwise_ne, List.pairwise_iff_getElem]
  intro i j hi hj hlt heq
  have hfirst := (h names[i] i).mpr (List.getElem?_eq_getElem hi)
  have hsecond := (h names[j] j).mpr (List.getElem?_eq_getElem hj)
  rw [heq, hsecond] at hfirst
  exact Nat.ne_of_gt hlt (Option.some.inj hfirst)

theorem isSome_lookup_iff (h : Indexes index names) {name : String} :
    (index.lookup name).isSome = true ↔ name ∈ names := by
  rw [Option.isSome_iff_exists, List.mem_iff_getElem?]
  exact exists_congr fun i => h name i

/-- What is looked up under a name is the item of that name. -/
theorem bind_lookup_eq_some {items : List α} {key : α → String}
    (h : Indexes index (items.map key)) {name : String} {x : α} :
    (index.lookup name).bind (items[·]?) = some x ↔ x ∈ items ∧ key x = name := by
  rw [Option.bind_eq_some_iff]
  constructor
  · rintro ⟨i, hi, hx⟩
    refine ⟨List.mem_of_getElem? hx, ?_⟩
    simpa [hx] using (h name i).mp hi
  · rintro ⟨hx, rfl⟩
    obtain ⟨i, hi⟩ := List.mem_iff_getElem?.mp hx
    exact ⟨i, (h (key x) i).mpr (by simp [hi]), hi⟩

end Indexes

namespace Registry

/-- A case is fresh as long as no registry has attached it to a suite. -/
def Item.Fresh : Item σ → Prop
  | .suite _ => True
  | .testCase c => c.suite = none

/-- The registries that registrations of fresh items lead to. -/
inductive Reachable : Registry σ → Prop where
  | empty : Reachable {}
  | add {r next : Registry σ} {item : Item σ} :
      item.Fresh → Reachable r → r.add item = .ok next → Reachable next

/-- Suites have names, and both indexes are in step with what is registered. -/
structure Indexed (r : Registry σ) : Prop where
  named : ∀ suite ∈ r.suites, suite.name ≠ ""
  suites : Indexes r.suiteIndex (r.suites.map (·.name))
  cases : Indexes r.caseIndex (r.cases.map (·.fullName))

variable {r next : Registry σ} {suite : Suite σ} {c : Case σ}

theorem addSuite_eq_ok (h : r.addSuite suite = .ok next) :
    suite.name ≠ "" ∧ (r.suiteIndex? suite.name).isSome = false ∧
      next = { r with
        suites := r.suites ++ [suite]
        suiteIndex := (suite.name, r.suites.length) :: r.suiteIndex
        cases := r.cases.map fun c =>
          if c.suiteName = suite.name then c.attach suite else c } := by
  rw [addSuite] at h
  split at h
  · cases h
  · rename_i hname
    split at h
    · cases h
    · rename_i hindex
      cases h
      exact ⟨hname, by simpa using hindex, rfl⟩

theorem addCase_eq_ok (h : r.addCase c = .ok next) :
    (r.caseIndex? c.fullName).isSome = false ∧
      next = { r with
        cases := r.cases ++ [r.placed c]
        caseIndex := (c.fullName, r.cases.length) :: r.caseIndex } := by
  rw [addCase] at h
  split at h
  · cases h
  · rename_i hindex
    cases h
    exact ⟨by simpa using hindex, rfl⟩

theorem placed_eq (r : Registry σ) (c : Case σ) :
    r.placed c = { c with suite := c.suite.or (r.suite? c.suiteName) } := by
  rw [placed]
  split
  · rename_i hsuite
    rw [Case.attach, hsuite]
  · rename_i hnone
    rw [hnone, Option.or_none]

@[simp] theorem fullName_placed (r : Registry σ) (c : Case σ) :
    (r.placed c).fullName = c.fullName := by
  rw [placed_eq]
  rfl

@[simp] theorem suiteName_placed (r : Registry σ) (c : Case σ) :
    (r.placed c).suiteName = c.suiteName := by
  rw [placed_eq]

theorem map_fullName_attach (suite : Suite σ) (cases : List (Case σ)) :
    (cases.map fun c => if c.suiteName = suite.name then c.attach suite else c).map (·.fullName) =
      cases.map (·.fullName) := by
  rw [List.map_map]
  refine List.map_congr_left fun c _ => ?_
  rw [Function.comp_apply]
  split <;> rfl

namespace Indexed

theorem suite?_eq_some (h : r.Indexed) {name : String} :
    r.suite? name = some suite ↔ suite ∈ r.suites ∧ suite.name = name :=
  h.suites.bind_lookup_eq_some

theorem case?_eq_some (h : r.Indexed) {fullName : String} :
    r.case? fullName = some c ↔ c ∈ r.cases ∧ c.fullName = fullName :=
  h.cases.bind_lookup_eq_some

theorem suite?_eq_none (h : r.Indexed) {name : String} :
    r.suite? name = none ↔ ∀ suite ∈ r.suites, suite.name ≠ name := by
  rw [Option.eq_none_iff_forall_ne_some]
  simp only [ne_eq, h.suite?_eq_some, not_and]

theorem isSome_suiteIndex? (h : r.Indexed) {name : String} :
    (r.suiteIndex? name).isSome = true ↔ ∃ suite ∈ r.suites, suite.name = name :=
  h.suites.isSome_lookup_iff.trans List.mem_map

theorem isSome_caseIndex? (h : r.Indexed) {fullName : String} :
    (r.caseIndex? fullName).isSome = true ↔ ∃ c ∈ r.cases, c.fullName = fullName :=
  h.cases.isSome_lookup_iff.trans List.mem_map

theorem empty : Indexed ({} : Registry σ) where
  named := fun _ hsuite => absurd hsuite List.not_mem_nil
  suites := .nil
  cases := .nil

theorem addSuite (h : r.Indexed) (hadd : r.addSuite suite = .ok next) : next.Indexed := by
  obtain ⟨hname, hindex, rfl⟩ := addSuite_eq_ok hadd
  have hfresh : suite.name ∉ r.suites.map (·.name) := by
    rw [← h.suites.isSome_lookup_iff, Bool.not_eq_true]
    exact hindex
  constructor
  · intro other hother
    rcases List.mem_append.mp hother with hother | hother
    · exact h.named other hother
    · obtain rfl := List.mem_singleton.mp hother
      exact hname
  · have hcons := h.suites.cons hfresh
    rw [List.length_map] at hcons
    rwa [List.map_append]
  · dsimp only
    rw [map_fullName_attach]
    exact h.cases

theorem addCase (h : r.Indexed) (hadd : r.addCase c = .ok next) : next.Indexed := by
  obtain ⟨hindex, rfl⟩ := addCase_eq_ok hadd
  have hfresh : c.fullName ∉ r.cases.map (·.fullName) := by
    rw [← h.cases.isSome_lookup_iff, Bool.not_eq_true]
    exact hindex
  constructor
  · exact h.named
  · exact h.suites
  · have hcons := h.cases.cons hfresh
    rw [List.length_map] at hcons
    rwa [List.map_append, List.map_singleton, fullName_placed]

theorem add {item : Item σ} (h : r.Indexed) (hadd : r.add item = .ok next) : next.Indexed := by
  cases item with
  | suite suite => exact h.addSuite hadd
  | testCase c => exact h.addCase hadd

end Indexed

theorem Reachable.indexed (h : r.Reachable) : r.Indexed := by
  induction h with
  | empty => exact .empty
  | add _ _ hadd ih => exact ih.add hadd

end Registry

end Testbed
