import Testbed.Proofs.Registry.Attachment

/-! # Registrations

What holds of a registry after any registrations, whichever of them failed, and
of the catalogue that is made of it. A registration that fails changes nothing;
one that succeeds puts its item last, and attaches cases that were waiting, but
never a case that was attached before.
-/

namespace Testbed

variable {σ : Type}

/-- The case without what the registry adds to it. -/
def Case.detached (c : Case σ) : Case σ :=
  { c with suite := none }

namespace Registry

/-- One registration after the other; those that fail are passed over. -/
def addEach (r : Registry σ) : List (Item σ) → Registry σ
  | [] => r
  | item :: items => (r.addAll [item]).registry.addEach items

/-- Why an item is not registered. -/
inductive Refused (r : Registry σ) : Item σ → Error → Prop where
  | emptyName {suite : Suite σ} : suite.name = "" → Refused r (.suite suite) .emptySuiteName
  | suiteName {suite other : Suite σ} : suite.name ≠ "" → other ∈ r.suites →
      other.name = suite.name → Refused r (.suite suite) (.duplicateSuite suite.name)
  | caseName {c other : Case σ} : other ∈ r.cases → other.fullName = c.fullName →
      Refused r (.testCase c) (.duplicateCase c.fullName)

/-- The item stands last, and apart from attachments nothing else has changed. -/
def Extended (r next : Registry σ) : Item σ → Prop
  | .suite suite =>
    next.suites = r.suites ++ [suite] ∧
      next.cases.map Case.detached = r.cases.map Case.detached
  | .testCase c =>
    next.suites = r.suites ∧
      next.cases.map Case.detached = r.cases.map Case.detached ++ [c.detached]

/-- Every case that is attached stays where it is and as it is. -/
def Keeps (r next : Registry σ) : Prop :=
  ∀ (i : Nat) (c : Case σ) (suite : Suite σ),
    r.cases[i]? = some c → c.suite = some suite → next.cases[i]? = some c

/-- Names are distinct, the indexes tell where everything stands, and a case is attached to the
suite that it names if that is registered, and to nothing else. -/
structure Sound (r : Registry σ) : Prop where
  named : ∀ suite ∈ r.suites, suite.name ≠ ""
  suites_distinct : (r.suites.map (·.name)).Nodup
  cases_distinct : (r.cases.map (·.fullName)).Nodup
  suiteIndex : ∀ name i,
    r.suiteIndex? name = some i ↔ ∃ suite, r.suites[i]? = some suite ∧ suite.name = name
  caseIndex : ∀ fullName i,
    r.caseIndex? fullName = some i ↔ ∃ c, r.cases[i]? = some c ∧ c.fullName = fullName
  attached : ∀ c ∈ r.cases, ∀ suite,
    c.suite = some suite ↔ suite ∈ r.suites ∧ suite.name = c.suiteName

/-- The suite that the case names is there. -/
def HasSuite (r : Registry σ) (c : Case σ) : Prop :=
  ∃ suite ∈ r.suites, suite.name = c.suiteName

/-- The catalogue knows what was registered, and nothing else. -/
structure Answers (r : Registry σ) (catalogue : Catalogue σ) : Prop where
  suites : catalogue.suites = r.suites
  cases : catalogue.cases = r.cases
  suite? : ∀ name suite,
    catalogue.suite? name = some suite ↔ suite ∈ r.suites ∧ suite.name = name
  case? : ∀ fullName c,
    catalogue.case? fullName = some c ↔ c ∈ r.cases ∧ c.fullName = fullName
  casesOf : ∀ name,
    catalogue.casesOf name = r.cases.filter fun c => c.suite.any fun suite => suite.name = name
  inherited : ∀ c ∈ r.cases, ∃ suite ∈ r.suites, suite.name = c.suiteName ∧
    c.suite = some suite ∧ c.area = suite.area ∧ c.category = suite.category ∧
    c.tags = suite.tags ∧ c.requirement = c.ownRequirement.getD suite.requirement

variable {r next : Registry σ} {item : Item σ} {e : Error}

theorem add_eq_error_iff (h : r.Indexed) : r.add item = .error e ↔ Refused r item e := by
  cases item with
  | suite suite =>
    rw [add, addSuite]
    split
    · rename_i hname
      constructor
      · rintro ⟨⟩
        exact .emptyName hname
      · rintro (_ | hne)
        · rfl
        · exact absurd hname hne
    · rename_i hname
      split
      · rename_i hindex
        obtain ⟨other, hother, heq⟩ := h.isSome_suiteIndex?.mp hindex
        constructor
        · rintro ⟨⟩
          exact .suiteName hname hother heq
        · rintro (hempty | _)
          · exact absurd hempty hname
          · rfl
      · rename_i hindex
        constructor
        · rintro ⟨⟩
        · rintro (hempty | ⟨-, hother, heq⟩)
          · exact absurd hempty hname
          · exact absurd (h.isSome_suiteIndex?.mpr ⟨_, hother, heq⟩) hindex
  | testCase c =>
    rw [add, addCase]
    split
    · rename_i hindex
      obtain ⟨other, hother, heq⟩ := h.isSome_caseIndex?.mp hindex
      constructor
      · rintro ⟨⟩
        exact .caseName hother heq
      · rintro ⟨⟩
        rfl
    · rename_i hindex
      constructor
      · rintro ⟨⟩
      · rintro (_ | _ | ⟨hother, heq⟩)
        exact absurd (h.isSome_caseIndex?.mpr ⟨_, hother, heq⟩) hindex

theorem detached_placed (r : Registry σ) (c : Case σ) : (r.placed c).detached = c.detached := by
  rw [placed_eq]
  rfl

theorem extended_of_add (h : r.add item = .ok next) : Extended r next item := by
  cases item with
  | suite suite =>
    obtain ⟨-, -, rfl⟩ := addSuite_eq_ok h
    refine ⟨rfl, ?_⟩
    rw [List.map_map]
    refine List.map_congr_left fun c _ => ?_
    rw [Function.comp_apply]
    split <;> rfl
  | testCase c =>
    obtain ⟨-, rfl⟩ := addCase_eq_ok h
    refine ⟨rfl, ?_⟩
    rw [List.map_append, List.map_singleton, detached_placed]

namespace Keeps

theorem refl (r : Registry σ) : Keeps r r :=
  fun _ _ _ hc _ => hc

theorem trans {last : Registry σ} (h : Keeps r next) (h' : Keeps next last) : Keeps r last :=
  fun i c suite hc hsuite => h' i c suite (h i c suite hc hsuite) hsuite

theorem add (h : r.add item = .ok next) : Keeps r next := by
  intro i c suite hc hsuite
  cases item with
  | suite other =>
    obtain ⟨-, -, rfl⟩ := addSuite_eq_ok h
    rw [List.getElem?_map, hc, Option.map_some, Option.some_inj]
    split
    · rw [Case.attach, hsuite, Option.some_or, ← hsuite]
    · rfl
  | testCase other =>
    obtain ⟨-, rfl⟩ := addCase_eq_ok h
    rw [List.getElem?_append_left (List.getElem?_eq_some_iff.mp hc).1]
    exact hc

end Keeps

/-- A single registration either fails and leaves the registry alone, or succeeds. -/
theorem addAll_singleton (r : Registry σ) (item : Item σ) :
    (∃ e, r.add item = .error e ∧ (r.addAll [item]).error = some e ∧
        (r.addAll [item]).registry = r) ∨
      ∃ next, r.add item = .ok next ∧ (r.addAll [item]).error = none ∧
        (r.addAll [item]).registry = next := by
  rw [addAll]
  split
  · rename_i e hadd
    exact Or.inl ⟨e, hadd, rfl, rfl⟩
  · rename_i next hadd
    exact Or.inr ⟨next, hadd, rfl, rfl⟩

theorem Reachable.addEach (h : r.Reachable) {items : List (Item σ)}
    (hfresh : ∀ item ∈ items, item.Fresh) : (r.addEach items).Reachable := by
  induction items generalizing r with
  | nil => exact h
  | cons item items ih =>
    obtain ⟨hitem, hrest⟩ := List.forall_mem_cons.mp hfresh
    exact ih (h.addAll (List.forall_mem_singleton.mpr hitem)) hrest

theorem Keeps.addEach (r : Registry σ) (items : List (Item σ)) : Keeps r (r.addEach items) := by
  induction items generalizing r with
  | nil => exact .refl r
  | cons item items ih =>
    refine Keeps.trans ?_ (ih _)
    rcases addAll_singleton r item with ⟨e, -, -, heq⟩ | ⟨next, hadd, -, heq⟩
    · rw [heq]
      exact .refl r
    · rw [heq]
      exact .add hadd

theorem freeze_eq_ok_iff {catalogue : Catalogue σ} :
    r.freeze = .ok catalogue ↔ (∀ c ∈ r.cases, ¬ c.suite.isNone = true) ∧ catalogue = ⟨r⟩ := by
  rw [← List.find?_eq_none, freeze]
  constructor
  · intro hfreeze
    split at hfreeze
    · cases hfreeze
    · rename_i hfind
      cases hfreeze
      exact ⟨hfind, rfl⟩
  · rintro ⟨hfind, rfl⟩
    rw [hfind]

theorem Reachable.sound (h : r.Reachable) : r.Sound where
  named := h.indexed.named
  suites_distinct := h.indexed.suites.nodup
  cases_distinct := h.indexed.cases.nodup
  suiteIndex := fun name i => by
    rw [suiteIndex?, h.indexed.suites name i, List.getElem?_map, Option.map_eq_some_iff]
  caseIndex := fun fullName i => by
    rw [caseIndex?, h.indexed.cases fullName i, List.getElem?_map, Option.map_eq_some_iff]
  attached := fun c hc suite => by
    rw [h.attached c hc, h.indexed.suite?_eq_some]

namespace Sound

theorem isNone_suite (h : r.Sound) {c : Case σ} (hc : c ∈ r.cases) :
    c.suite.isNone = true ↔ ¬ r.HasSuite c := by
  rw [Option.isNone_iff_eq_none, Option.eq_none_iff_forall_ne_some]
  constructor
  · rintro hnone ⟨suite, hsuite, heq⟩
    exact hnone suite ((h.attached c hc suite).mpr ⟨hsuite, heq⟩)
  · intro hnone suite hsuite
    exact hnone ⟨suite, (h.attached c hc suite).mp hsuite⟩

theorem not_isNone_suite (h : r.Sound) {c : Case σ} (hc : c ∈ r.cases) :
    (!c.suite.isNone) = true ↔ r.HasSuite c := by
  rw [Bool.not_eq_true', ← Bool.not_eq_true, h.isNone_suite hc, Classical.not_not]

theorem freeze_eq_ok_iff (h : r.Sound) {catalogue : Catalogue σ} :
    r.freeze = .ok catalogue ↔ (∀ c ∈ r.cases, r.HasSuite c) ∧ catalogue = ⟨r⟩ := by
  have hall : (∀ c ∈ r.cases, ¬ c.suite.isNone = true) ↔ ∀ c ∈ r.cases, r.HasSuite c := by
    refine forall₂_congr fun c hc => ?_
    rw [h.isNone_suite hc, Classical.not_not]
  rw [Registry.freeze_eq_ok_iff, hall]

theorem find?_isNone_suite (h : r.Sound) {orphan : Case σ} :
    r.cases.find? (·.suite.isNone) = some orphan ↔
      ∃ before after, r.cases = before ++ orphan :: after ∧
        (∀ c ∈ before, r.HasSuite c) ∧ ¬ r.HasSuite orphan := by
  rw [List.find?_eq_some_iff_append]
  constructor
  · rintro ⟨hnone, before, after, hcases, hbefore⟩
    refine ⟨before, after, hcases, fun c hc => ?_, ?_⟩
    · exact (h.not_isNone_suite (by simp [hcases, hc])).mp (hbefore c hc)
    · exact (h.isNone_suite (by simp [hcases])).mp hnone
  · rintro ⟨before, after, hcases, hbefore, hnone⟩
    refine ⟨?_, before, after, hcases, fun c hc => ?_⟩
    · exact (h.isNone_suite (by simp [hcases])).mpr hnone
    · exact (h.not_isNone_suite (by simp [hcases, hc])).mpr (hbefore c hc)

theorem freeze_eq_error_iff (h : r.Sound) :
    r.freeze = .error e ↔ ∃ before orphan after, r.cases = before ++ orphan :: after ∧
      (∀ c ∈ before, r.HasSuite c) ∧ ¬ r.HasSuite orphan ∧ e = .orphanCase orphan.fullName := by
  rw [freeze]
  constructor
  · intro hfreeze
    split at hfreeze
    · rename_i orphan hfind
      cases hfreeze
      obtain ⟨before, after, hcases, hbefore, hnone⟩ := h.find?_isNone_suite.mp hfind
      exact ⟨before, orphan, after, hcases, hbefore, hnone, rfl⟩
    · cases hfreeze
  · rintro ⟨before, orphan, after, hcases, hbefore, hnone, rfl⟩
    rw [h.find?_isNone_suite.mpr ⟨before, after, hcases, hbefore, hnone⟩]

theorem inherited (h : r.Sound) {c : Case σ} (hc : c ∈ r.cases) (hsuite : r.HasSuite c) :
    ∃ suite ∈ r.suites, suite.name = c.suiteName ∧ c.suite = some suite ∧
      c.area = suite.area ∧ c.category = suite.category ∧ c.tags = suite.tags ∧
      c.requirement = c.ownRequirement.getD suite.requirement := by
  obtain ⟨suite, hmem, hname⟩ := hsuite
  have hsome : c.suite = some suite := (h.attached c hc suite).mpr ⟨hmem, hname⟩
  refine ⟨suite, hmem, hname, hsome, ?_, ?_, ?_, ?_⟩
  · simp [Case.area, hsome]
  · simp [Case.category, hsome]
  · simp [Case.tags, hsome]
  · rw [Case.requirement, hsome]
    cases c.ownRequirement <;> rfl

end Sound

theorem Reachable.answers (h : r.Reachable) (hall : ∀ c ∈ r.cases, r.HasSuite c) :
    r.Answers ⟨r⟩ where
  suites := rfl
  cases := rfl
  suite? := fun _ _ => h.indexed.suite?_eq_some
  case? := fun _ _ => h.indexed.case?_eq_some
  casesOf := fun name => by
    refine List.filter_congr fun c hc => ?_
    obtain ⟨suite, -, hname, hsome, -⟩ := h.sound.inherited hc (hall c hc)
    rw [hsome, Option.any_some, hname]
  inherited := fun c hc => h.sound.inherited hc (hall c hc)

/-- After any registrations of fresh items from an empty registry on, the names are distinct, the
indexes and the attachments are right, and a further registration either extends the registry or is
refused and changes nothing. Closing it fails with the first case without a suite, and otherwise
leads to a catalogue that answers from what was registered. -/
theorem addEach_invariant {items : List (Item σ)} (hfresh : ∀ item ∈ items, item.Fresh) :
    let r := addEach {} items
    r.Sound ∧
      (∀ item,
        ((r.addAll [item]).error = none ∧ (∀ e, ¬ Refused r item e) ∧
            Extended r (r.addAll [item]).registry item) ∨
          ∃ e, (r.addAll [item]).error = some e ∧ Refused r item e ∧
            (r.addAll [item]).registry = r) ∧
      (∀ more, r.Keeps (r.addEach more)) ∧
      ((∃ catalogue, r.freeze = .ok catalogue) ↔ ∀ c ∈ r.cases, r.HasSuite c) ∧
      (∀ e, r.freeze = .error e ↔ ∃ before orphan after, r.cases = before ++ orphan :: after ∧
        (∀ c ∈ before, r.HasSuite c) ∧ ¬ r.HasSuite orphan ∧
        e = .orphanCase orphan.fullName) ∧
      ∀ catalogue, r.freeze = .ok catalogue → r.Answers catalogue := by
  intro r
  have hr : r.Reachable := .addEach .empty hfresh
  refine ⟨hr.sound, fun item => ?_, .addEach r, ?_, fun e => hr.sound.freeze_eq_error_iff,
    fun catalogue hfreeze => ?_⟩
  · rcases addAll_singleton r item with ⟨e, hadd, herror, hsame⟩ | ⟨next, hadd, hnone, hnext⟩
    · exact Or.inr ⟨e, herror, (add_eq_error_iff hr.indexed).mp hadd, hsame⟩
    · refine Or.inl ⟨hnone, fun e hrefused => ?_, ?_⟩
      · rw [(add_eq_error_iff hr.indexed).mpr hrefused] at hadd
        cases hadd
      · rw [hnext]
        exact extended_of_add hadd
  · constructor
    · rintro ⟨catalogue, hfreeze⟩
      exact (hr.sound.freeze_eq_ok_iff.mp hfreeze).1
    · intro hall
      exact ⟨⟨r⟩, hr.sound.freeze_eq_ok_iff.mpr ⟨hall, rfl⟩⟩
  · obtain ⟨hall, rfl⟩ := hr.sound.freeze_eq_ok_iff.mp hfreeze
    exact hr.answers hall

/-- A case comes before its suite and another one without its suite; three items are refused, for
having no name or the name of an earlier one. -/
def unruly : List (Item Unit) :=
  [.testCase { suiteName := "Net.sub", name := "up" }, .suite { name := "" },
    .suite { name := "Net", area := "net" }, .testCase { suiteName := "Net", name := "up" },
    .suite { name := "Net", area := "again" }, .testCase { suiteName := "Netdev", name := "up" },
    .testCase { suiteName := "Net.sub", name := "up", priority := 0 },
    .suite { name := "Net.sub", area := "sub" }]

theorem addEach_invariant_unruly :
    let r := addEach {} unruly
    (∀ item ∈ unruly, item.Fresh) ∧ r.Sound ∧ r.suites.map (·.name) = ["Net", "Net.sub"] ∧
      r.cases.map (fun c => (c.fullName, c.area, c.suite.map (·.name))) =
        [("Net.sub.up", "sub", some "Net.sub"), ("Net.up", "net", some "Net"),
          ("Netdev.up", "", none)] ∧
      r.freeze = .error (.orphanCase "Netdev.up") ∧
      ∃ catalogue, (r.addEach [.suite { name := "Netdev" }]).freeze = .ok catalogue ∧
        catalogue.casesOf "Net" = r.cases.filter fun c => c.fullName = "Net.up" := by
  intro r
  have hfresh : ∀ item ∈ unruly, item.Fresh := by simp [unruly, Item.Fresh]
  obtain ⟨hsound, -⟩ := addEach_invariant hfresh
  exact ⟨hfresh, hsound, by decide, by decide, rfl, _, rfl, rfl⟩

end Registry

namespace Catalogue.Frozen

variable {catalogue : Catalogue σ}

theorem reachable (h : catalogue.Frozen) : catalogue.registry.Reachable := by
  obtain ⟨r, hr, hfreeze⟩ := h
  obtain ⟨-, rfl⟩ := hr.sound.freeze_eq_ok_iff.mp hfreeze
  exact hr

theorem suite?_eq_some (h : catalogue.Frozen) {name : String} {suite : Suite σ} :
    catalogue.suite? name = some suite ↔ suite ∈ catalogue.suites ∧ suite.name = name :=
  h.reachable.indexed.suite?_eq_some

theorem case?_eq_some (h : catalogue.Frozen) {fullName : String} {c : Case σ} :
    catalogue.case? fullName = some c ↔ c ∈ catalogue.cases ∧ c.fullName = fullName :=
  h.reachable.indexed.case?_eq_some

theorem cases_distinct (h : catalogue.Frozen) : (catalogue.cases.map (·.fullName)).Nodup :=
  h.reachable.indexed.cases.nodup

end Catalogue.Frozen

end Testbed
