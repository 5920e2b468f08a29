import Testbed.Proofs.Registry.Index

/-! # Attachment

In every registry that registrations of fresh items lead to, a case is attached
to the suite that it names if that suite is there, and to no other. A catalogue
therefore knows the suites of all its cases.
-/

namespace Testbed

variable {σ : Type}

namespace Registry

/-- Each case is attached to the suite that it names, as soon as there is one. -/
def Attached (r : Registry σ) : Prop :=
  ∀ c ∈ r.cases, c.suite = r.suite? c.suiteName

variable {r next : Registry σ} {suite : Suite σ} {c : Case σ}

theorem suite?_addSuite (hi : r.Indexed) (h : r.addSuite suite = .ok next) (name : String) :
    next.suite? name = if name = suite.name then some suite else r.suite? name := by
  have hnext := hi.addSuite h
  obtain ⟨-, -, rfl⟩ := addSuite_eq_ok h
  split
  · rename_i heq
    rw [hnext.suite?_eq_some]
    simp [heq]
  · rename_i hne
    refine Option.ext fun other => ?_
    rw [hnext.suite?_eq_some, hi.suite?_eq_some]
    constructor
    · rintro ⟨hother, rfl⟩
      rcases List.mem_append.mp hother with hother | hother
      · exact ⟨hother, rfl⟩
      · exact absurd (congrArg Suite.name (List.mem_singleton.mp hother)) hne
    · rintro ⟨hother, rfl⟩
      exact ⟨List.mem_append_left _ hother, rfl⟩

theorem suite?_eq_none_of_addSuite (hi : r.Indexed) (h : r.addSuite suite = .ok next) :
    r.suite? suite.name = none := by
  obtain ⟨-, hindex, -⟩ := addSuite_eq_ok h
  rw [hi.suite?_eq_none]
  intro other hother heq
  rw [hi.isSome_suiteIndex?.mpr ⟨other, hother, heq⟩] at hindex
  cases hindex

theorem Attached.addSuite (hi : r.Indexed) (hr : r.Attached) (h : r.addSuite suite = .ok next) :
    next.Attached := by
  have hsuite? := suite?_addSuite hi h
  have hnone := suite?_eq_none_of_addSuite hi h
  obtain ⟨-, -, rfl⟩ := addSuite_eq_ok h
  intro c hc
  obtain ⟨old, hold, rfl⟩ := List.mem_map.mp hc
  have hsuite := hr old hold
  split
  · rename_i heq
    rw [heq, hnone] at hsuite
    rw [hsuite?]
    simp [Case.attach, heq, hsuite]
  · rename_i hne
    rw [hsuite?, if_neg hne, hsuite]

theorem Attached.addCase (hfresh : c.suite = none) (hr : r.Attached)
    (h : r.addCase c = .ok next) : next.Attached := by
  obtain ⟨-, rfl⟩ := addCase_eq_ok h
  intro c' hc'
  rcases List.mem_append.mp hc' with hc' | hc'
  · exact hr c' hc'
  · rw [List.mem_singleton.mp hc', placed_eq, hfresh]
    rfl

theorem Attached.add {item : Item σ} (hfresh : item.Fresh) (hi : r.Indexed) (hr : r.Attached)
    (h : r.add item = .ok next) : next.Attached := by
  cases item with
  | suite suite => exact hr.addSuite hi h
  | testCase c => exact hr.addCase hfresh h

theorem Reachable.attached (h : r.Reachable) : r.Attached := by
  induction h with
  | empty => exact fun c hc => absurd hc List.not_mem_nil
  | add hfresh hr hadd ih => exact ih.add hfresh hr.indexed hadd

theorem Reachable.addAll (h : r.Reachable) {items : List (Item σ)}
    (hfresh : ∀ item ∈ items, item.Fresh) : (r.addAll items).registry.Reachable := by
  induction items generalizing r with
  | nil => exact h
  | cons item items ih =>
    obtain ⟨hitem, hrest⟩ := List.forall_mem_cons.mp hfresh
    rw [Registry.addAll]
    split
    · exact h
    · rename_i hadd
      exact ih (.add hitem h hadd) hrest

end Registry

namespace Catalogue

/-- The catalogues that are made by closing registries of fresh items. -/
def Frozen (catalogue : Catalogue σ) : Prop :=
  ∃ r : Registry σ, r.Reachable ∧ r.freeze = .ok catalogue

/-- A catalogue knows the suite of each of its cases. -/
theorem Frozen.exists_suite {catalogue : Catalogue σ} (h : catalogue.Frozen) {c : Case σ}
    (hc : c ∈ catalogue.cases) :
    ∃ suite, catalogue.suite? c.suiteName = some suite ∧ c.suite = some suite := by
  obtain ⟨r, hr, hfreeze⟩ := h
  rw [Registry.freeze] at hfreeze
  split at hfreeze
  · cases hfreeze
  · rename_i hnone
    cases hfreeze
    obtain ⟨suite, hsuite⟩ : ∃ suite, c.suite = some suite := by
      simpa [Option.ne_none_iff_exists'] using List.find?_eq_none.mp hnone c hc
    exact ⟨suite, (hr.attached c hc).symm.trans hsuite, hsuite⟩

end Catalogue

end Testbed
