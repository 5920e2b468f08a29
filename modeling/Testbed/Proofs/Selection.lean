import Testbed.Proofs.Registry.LoadOrder
import Testbed.Selection

/-! # What a selection selects

A selection keeps the cases of a catalogue that are all that it asks for, in
their order. The full name of a case is that of no other, so a selection by a
whole name comes down to a look-up. To ask for more never adds a case, and to be
content with more never loses one.
-/

namespace Testbed

variable {σ : Type}

namespace Selection

/-- The case, which belongs to the suite, is all that the selection asks for. -/
structure MetBy (s : Selection) (suite : Suite σ) (c : Case σ) : Prop where
  name : ∀ text, s.filter = some text →
    if s.exact then c.fullName = text else text.toList <:+: c.fullName.toList
  area : s.areas ≠ [] → suite.area ∈ s.areas
  category : s.categories ≠ [] → suite.category ∈ s.categories
  tags : s.tags ≠ [] → ∃ tag ∈ suite.tags, tag ∈ s.tags
  priority : ∀ max, s.maxPriority = some max → c.priority ≤ max

/-- The second selection gives one criterion more. -/
inductive Adds (s : Selection) : Selection → Prop
  | filter (text : String) : s.filter = none → Adds s { s with filter := some text }
  | exact : Adds s { s with exact := true }
  | areas (names : List String) : s.areas = [] → Adds s { s with areas := names }
  | categories (names : List String) : s.categories = [] → Adds s { s with categories := names }
  | tags (names : List String) : s.tags = [] → Adds s { s with tags := names }
  | maxPriority (max : UInt32) : s.maxPriority = none → Adds s { s with maxPriority := some max }

/-- The second selection gives the same criteria, and is content with more values of one of them. -/
inductive Relaxes (s : Selection) : Selection → Prop
  | areas {more : List String} : s.areas ≠ [] → s.areas ⊆ more →
      Relaxes s { s with areas := more }
  | categories {more : List String} : s.categories ≠ [] → s.categories ⊆ more →
      Relaxes s { s with categories := more }
  | tags {more : List String} : s.tags ≠ [] → s.tags ⊆ more → Relaxes s { s with tags := more }
  | maxPriority {max more : UInt32} : s.maxPriority = some max → max ≤ more →
      Relaxes s { s with maxPriority := some more }

/-- A list of names asks for at least as much as another one: this is empty, or has them all. -/
def NarrowerList (names more : List String) : Prop :=
  more = [] ∨ names ≠ [] ∧ names ⊆ more

/-- One selection asks for all that another one asks for. -/
structure Narrower (s s' : Selection) : Prop where
  filter : s'.filter = none ∨ s.filter = s'.filter ∧ (s'.exact = true → s.exact = true)
  areas : NarrowerList s.areas s'.areas
  categories : NarrowerList s.categories s'.categories
  tags : NarrowerList s.tags s'.tags
  maxPriority : ∀ more, s'.maxPriority = some more → ∃ max, s.maxPriority = some max ∧ max ≤ more

theorem NarrowerList.refl (names : List String) : NarrowerList names names := by
  by_cases hnil : names = []
  · exact Or.inl hnil
  · exact Or.inr ⟨hnil, List.Subset.refl names⟩

namespace Narrower

variable {s s' : Selection}

theorem refl (s : Selection) : s.Narrower s where
  filter := Or.inr ⟨rfl, id⟩
  areas := .refl s.areas
  categories := .refl s.categories
  tags := .refl s.tags
  maxPriority max hmax := ⟨max, hmax, UInt32.le_refl max⟩

theorem of_adds (h : s.Adds s') : s'.Narrower s := by
  cases h with
  | filter text hnone => exact { refl s with filter := Or.inl hnone }
  | exact => exact { refl s with filter := Or.inr ⟨rfl, fun _ => rfl⟩ }
  | areas names hnil => exact { refl s with areas := Or.inl hnil }
  | categories names hnil => exact { refl s with categories := Or.inl hnil }
  | tags names hnil => exact { refl s with tags := Or.inl hnil }
  | maxPriority max hnone =>
    exact { refl s with maxPriority := fun more hmore => by rw [hnone] at hmore; cases hmore }

theorem of_relaxes (h : s.Relaxes s') : s.Narrower s' := by
  cases h with
  | areas hne hmore => exact { refl s with areas := Or.inr ⟨hne, hmore⟩ }
  | categories hne hmore => exact { refl s with categories := Or.inr ⟨hne, hmore⟩ }
  | tags hne hmore => exact { refl s with tags := Or.inr ⟨hne, hmore⟩ }
  | @maxPriority max more hmax hle =>
    exact { refl s with maxPriority := fun more' hmore => ⟨max, hmax, by cases hmore; exact hle⟩ }

theorem metBy (h : s.Narrower s') {suite : Suite σ} {c : Case σ} (hmet : s.MetBy suite c) :
    s'.MetBy suite c where
  name text htext := by
    rcases h.filter with hnone | ⟨hsame, hexact⟩
    · rw [hnone] at htext
      cases htext
    · have hname := hmet.name text (hsame.trans htext)
      split
      · rename_i hexact'
        rwa [if_pos (hexact hexact')] at hname
      · split at hname
        · exact hname ▸ List.infix_rfl
        · exact hname
  area hne := by
    obtain ⟨hnames, hsubset⟩ := h.areas.resolve_left hne
    exact hsubset (hmet.area hnames)
  category hne := by
    obtain ⟨hnames, hsubset⟩ := h.categories.resolve_left hne
    exact hsubset (hmet.category hnames)
  tags hne := by
    obtain ⟨hnames, hsubset⟩ := h.tags.resolve_left hne
    obtain ⟨tag, htag, hname⟩ := hmet.tags hnames
    exact ⟨tag, htag, hsubset hname⟩
  priority more hmore := by
    obtain ⟨max, hmax, hle⟩ := h.maxPriority more hmore
    exact UInt32.le_trans (hmet.priority max hmax) hle

end Narrower

theorem matchesName_iff (s : Selection) (c : Case σ) :
    s.matchesName c = true ↔ ∀ text, s.filter = some text →
      if s.exact then c.fullName = text else text.toList <:+: c.fullName.toList := by
  rw [matchesName, Option.all_eq_true]
  refine forall₂_congr fun text _ => ?_
  split
  · exact decide_eq_true_iff
  · exact Text.occursIn_iff

theorem listed_iff {names : List String} {name : String} :
    (names.isEmpty || names.contains name) = true ↔ (names ≠ [] → name ∈ names) := by
  rw [Bool.or_eq_true, List.isEmpty_iff, List.contains_iff_mem]
  exact Decidable.or_iff_not_imp_left

theorem tagged_iff {names tags : List String} :
    (names.isEmpty || tags.any names.contains) = true ↔
      (names ≠ [] → ∃ tag ∈ tags, tag ∈ names) := by
  rw [Bool.or_eq_true, List.isEmpty_iff, List.any_eq_true]
  simp only [List.contains_iff_mem]
  exact Decidable.or_iff_not_imp_left

theorem admits_iff (s : Selection) {suite : Suite σ} {c : Case σ} (hsuite : c.suite = some suite) :
    s.admits c = true ↔ s.MetBy suite c := by
  have harea : c.area = suite.area := by simp [Case.area, hsuite]
  have hcategory : c.category = suite.category := by simp [Case.category, hsuite]
  have htags : c.tags = suite.tags := by simp [Case.tags, hsuite]
  rw [admits, harea, hcategory, htags]
  simp only [Bool.and_eq_true, matchesName_iff, listed_iff, tagged_iff, Option.all_eq_true,
    decide_eq_true_iff]
  constructor
  · rintro ⟨⟨⟨⟨hname, harea⟩, hcategory⟩, htags⟩, hpriority⟩
    exact ⟨hname, harea, hcategory, htags, hpriority⟩
  · rintro ⟨hname, harea, hcategory, htags, hpriority⟩
    exact ⟨⟨⟨⟨hname, harea⟩, hcategory⟩, htags⟩, hpriority⟩

variable {catalogue : Catalogue σ} {s s' : Selection}

theorem mem_select (hfrozen : catalogue.Frozen) {c : Case σ} :
    c ∈ s.select catalogue ↔ c ∈ catalogue.cases ∧
      ∃ suite, catalogue.suite? c.suiteName = some suite ∧ s.MetBy suite c := by
  rw [select, List.mem_filter]
  refine and_congr_right fun hc => ?_
  obtain ⟨suite, hsuite, hattached⟩ := hfrozen.exists_suite hc
  rw [s.admits_iff hattached, hsuite]
  constructor
  · exact fun hmet => ⟨suite, rfl, hmet⟩
  · rintro ⟨_, ⟨⟩, hmet⟩
    exact hmet

theorem select_sublist (hfrozen : catalogue.Frozen) (h : s.Narrower s') :
    (s.select catalogue).Sublist (s'.select catalogue) := by
  have hboth : s.select catalogue = (s'.select catalogue).filter s.admits := by
    rw [select, select, List.filter_filter]
    refine List.filter_congr fun c hc => ?_
    obtain ⟨suite, -, hattached⟩ := hfrozen.exists_suite hc
    rw [Bool.eq_iff_iff, Bool.and_eq_true, s.admits_iff hattached, s'.admits_iff hattached]
    exact ⟨fun hmet => ⟨hmet, h.metBy hmet⟩, And.left⟩
  rw [hboth]
  exact List.filter_sublist

theorem metBy_whole_name {text : String} (hfilter : s.filter = some text)
    (hexact : s.exact = true) {suite : Suite σ} {c : Case σ} :
    s.MetBy suite c ↔ c.fullName = text ∧ { s with filter := none }.MetBy suite c := by
  constructor
  · intro h
    have hname := h.name text hfilter
    rw [if_pos hexact] at hname
    exact ⟨hname, nofun, h.area, h.category, h.tags, h.priority⟩
  · rintro ⟨hname, -, harea, hcategory, htags, hpriority⟩
    refine ⟨fun text' htext' => ?_, harea, hcategory, htags, hpriority⟩
    rw [if_pos hexact, hname, ← Option.some_inj, ← hfilter, htext']

/-- What is selected stands in the order of registration. -/
theorem select_inOrder {items : List (Registry.Item σ)}
    (hitems : catalogue.registry = Registry.addEach {} items) (s : Selection) :
    ((s.select catalogue).map Case.detached).Sublist
      ((Registry.casesIn items).map Case.detached) := by
  have hcases : (catalogue.cases.map Case.detached).Sublist
      ((Registry.casesIn items).map Case.detached) := by
    rw [Catalogue.cases, hitems]
    exact Registry.detached_addEach_sublist {} items
  exact (List.filter_sublist.map _).trans hcases

theorem select_distinct (hfrozen : catalogue.Frozen) (s : Selection) :
    ((s.select catalogue).map (·.fullName)).Nodup :=
  hfrozen.cases_distinct.sublist (List.filter_sublist.map _)

/-- A selection by a whole name selects what is found under this name, or nothing. -/
theorem mem_select_whole_name (hfrozen : catalogue.Frozen) {text : String}
    (hfilter : s.filter = some text) (hexact : s.exact = true) {c : Case σ} :
    c ∈ s.select catalogue ↔ catalogue.case? text = some c ∧
      ∃ suite, catalogue.suite? c.suiteName = some suite ∧
        { s with filter := none }.MetBy suite c := by
  simp only [mem_select hfrozen, hfrozen.case?_eq_some, metBy_whole_name hfilter hexact]
  constructor
  · rintro ⟨hc, suite, hsuite, hname, hmet⟩
    exact ⟨⟨hc, hname⟩, suite, hsuite, hmet⟩
  · rintro ⟨⟨hc, hname⟩, suite, hsuite, hmet⟩
    exact ⟨hc, suite, hsuite, hname, hmet⟩

theorem length_select_whole_name (hfrozen : catalogue.Frozen) {text : String}
    (hfilter : s.filter = some text) (hexact : s.exact = true) :
    (s.select catalogue).length ≤ 1 := by
  have hfound {c : Case σ} (hc : c ∈ s.select catalogue) : catalogue.case? text = some c :=
    ((mem_select_whole_name hfrozen hfilter hexact).mp hc).1
  have hdistinct := select_distinct hfrozen s
  rcases hselected : s.select catalogue with - | ⟨c, - | ⟨c', rest⟩⟩
  · exact Nat.zero_le 1
  · exact Nat.le_refl 1
  · rw [hselected] at hfound hdistinct
    have hsame : c = c' := Option.some.inj ((hfound List.mem_cons_self).symm.trans
      (hfound (List.mem_cons_of_mem c List.mem_cons_self)))
    rw [hsame] at hdistinct
    exact absurd List.mem_cons_self (List.nodup_cons.mp hdistinct).1

/-- A selection from a catalogue has the cases that are all that it asks for, each of them once and
in the order in which they were registered. By a whole name it has at most one, namely what is
looked up under this name if that is all the rest that is asked for, and the name as a part selects
it too. One more criterion never adds a case; more values of a criterion that is given never lose
one. -/
theorem select_exactly (hfrozen : catalogue.Frozen) (s : Selection) :
    let selected := s.select catalogue
    (selected.Sublist catalogue.cases ∧
        (∀ items, catalogue.registry = Registry.addEach {} items →
          (selected.map Case.detached).Sublist ((Registry.casesIn items).map Case.detached)) ∧
        (selected.map (·.fullName)).Nodup ∧
        ∀ c, c ∈ selected ↔ c ∈ catalogue.cases ∧
          ∃ suite, catalogue.suite? c.suiteName = some suite ∧ s.MetBy suite c) ∧
      (∀ text, s.filter = some text → s.exact = true →
        selected.length ≤ 1 ∧
          (∀ c, c ∈ selected ↔ catalogue.case? text = some c ∧
            ∃ suite, catalogue.suite? c.suiteName = some suite ∧
              { s with filter := none }.MetBy suite c) ∧
          selected.Sublist ({ s with exact := false }.select catalogue)) ∧
      (∀ s', s.Adds s' → (s'.select catalogue).Sublist selected) ∧
      ∀ s', s.Relaxes s' → selected.Sublist (s'.select catalogue) := by
  intro selected
  refine ⟨⟨List.filter_sublist, fun items hitems => select_inOrder hitems s,
      select_distinct hfrozen s, fun c => mem_select hfrozen⟩,
    fun text hfilter hexact => ⟨?_, ?_, ?_⟩, fun s' hadds => ?_, fun s' hrelaxes => ?_⟩
  · exact length_select_whole_name hfrozen hfilter hexact
  · exact fun c => mem_select_whole_name hfrozen hfilter hexact
  · have hpart : s.Narrower { s with exact := false } :=
      { Narrower.refl s with filter := Or.inr ⟨rfl, nofun⟩ }
    exact select_sublist hfrozen hpart
  · exact select_sublist hfrozen (.of_adds hadds)
  · exact select_sublist hfrozen (.of_relaxes hrelaxes)

/-- One name of a case is the beginning of another one. -/
def pings : Catalogue Unit where
  registry := (Registry.addAll {} [
    .testCase { suiteName := "net", name := "ping" },
    .suite { name := "disk", area := "storage" },
    .suite { name := "net", area := "network", tags := ["nic"] },
    .testCase { suiteName := "disk", name := "fio" },
    .testCase { suiteName := "net", name := "ping_flood", priority := 3 }]).registry

theorem frozen_pings : pings.Frozen :=
  ⟨pings.registry, Registry.Reachable.empty.addAll (by simp [Registry.Item.Fresh]), rfl⟩

theorem select_exactly_ping :
    let whole : Selection := { filter := some "net.ping", exact := true, tags := ["nic"] }
    let part : Selection := { whole with exact := false }
    (whole.select pings).map (·.fullName) = ["net.ping"] ∧
      (part.select pings).map (·.fullName) = ["net.ping", "net.ping_flood"] ∧
      (whole.select pings).length ≤ 1 ∧
      (whole.select pings).Sublist (part.select pings) ∧
      ({ part with maxPriority := some 2 }.select pings).Sublist (part.select pings) := by
  intro whole part
  obtain ⟨-, hwhole, -⟩ := select_exactly frozen_pings whole
  obtain ⟨hlength, -, hsublist⟩ := hwhole "net.ping" rfl rfl
  obtain ⟨-, -, hadds, -⟩ := select_exactly frozen_pings part
  exact ⟨by decide +kernel, by decide +kernel, hlength, hsublist, hadds _ (.maxPriority 2 rfl)⟩

end Selection

end Testbed
