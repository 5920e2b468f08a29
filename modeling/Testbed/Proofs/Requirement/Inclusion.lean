import Testbed.Os.Basic
import Testbed.Proofs.Requirement.Acceptance

/-! # Rules made of lists

A rule is made of a list of items and compared with a list of what is offered.
Its answer looks at neither as a list: order and repetition change nothing, not
even the text. Items at fault are named once each, in increasing order.
-/

namespace Testbed

/-- The only reason names the items of a kind, each of them once and in increasing order. -/
def Finding.Names {α : Type} [Ord α] [ToString α] (f : Finding) (reason : String)
    (kind : α → Prop) : Prop :=
  ∃ named, Ascending named ∧ (∀ x, x ∈ named ↔ kind x) ∧
    f.reasons = [reason ++ " [" ++ ", ".intercalate (named.map toString) ++ "]"]

namespace SetRule

variable {α : Type} [Ord α]

theorem names_blame [ToString α] {reason : String} {named : List α} {kind : α → Prop}
    (hnamed : Ascending named) (hkind : ∀ x, x ∈ named ↔ kind x)
    (hmet : (blame reason named).met = false) : (blame reason named).Names reason kind := by
  refine ⟨named, hnamed, hkind, ?_⟩
  cases named with
  | nil => cases hmet
  | cons x named => simp [blame, Finding.failed, Finding.add, Finding.ok, toString]

variable [Std.TransOrd α]

/-- The rule is of the kind and made of the items. If they are listed on two sides, they are all on
one of them: on the first, one of them is asked for, and on the second none may be offered. -/
inductive MadeOf : SetRule α → Mode → List α → Prop
  | requireAll (items : List α) : MadeOf (.requireAll items) .everyItem items
  | requireAny (items : List α) : MadeOf (.requireAny items) .someItem items
  | deny (items : List α) : MadeOf (.deny items) .noItem items
  | ofLists {supported unsupported : List α} {what : String} {rule : SetRule α} :
    ofLists supported unsupported what = .ok (some rule) →
      MadeOf rule (if supported = [] then .noItem else .someItem) (supported ++ unsupported)

theorem MadeOf.eq {rule : SetRule α} {mode : Mode} {items : List α} (h : rule.MadeOf mode items) :
    rule = ⟨mode, .ofList items⟩ := by
  cases h with
  | requireAll | requireAny | deny => rfl
  | @ofLists supported unsupported what _ h =>
    -- Only one of the lists has items, so it is the two of them in a row.
    cases supported <;> cases unsupported <;> cases h
    · rfl
    · rw [List.append_nil]
      rfl

section Accepts

variable [Std.LawfulEqOrd α]

theorem accepts_requireAll {items offered : List α} :
    (requireAll items).Accepts offered ↔ ∀ x ∈ items, x ∈ offered := by
  simp only [Accepts, requireAll, ItemSet.toList_ofList_eq_nil_iff, ItemSet.mem_toList_ofList]
  refine or_iff_right_of_imp ?_
  rintro rfl x hx
  cases hx

theorem accepts_requireAny {items offered : List α} :
    (requireAny items).Accepts offered ↔ items = [] ∨ ∃ x ∈ offered, x ∈ items := by
  simp only [Accepts, requireAny, ItemSet.toList_ofList_eq_nil_iff, ItemSet.mem_toList_ofList]

theorem accepts_deny {items offered : List α} :
    (deny items).Accepts offered ↔ ∀ x ∈ offered, x ∉ items := by
  simp only [Accepts, deny, ItemSet.toList_ofList_eq_nil_iff, ItemSet.mem_toList_ofList]
  refine or_iff_right_of_imp ?_
  rintro rfl x - hx
  cases hx

end Accepts

omit [Std.TransOrd α] in
/-- What is offered in addition never hurts where items are allowed. -/
theorem Accepts.mono {rule : SetRule α} (hallows : rule.allows = true) {offered more : List α}
    (hmore : offered ⊆ more) (h : rule.Accepts offered) : rule.Accepts more := by
  rcases h with hnil | h
  · exact Or.inl hnil
  · refine Or.inr ?_
    cases hmode : rule.mode with
    | everyItem =>
      rw [hmode] at h
      exact fun x hx => hmore (h x hx)
    | someItem =>
      rw [hmode] at h
      obtain ⟨x, hx, hitem⟩ := h
      exact ⟨x, hmore hx, hitem⟩
    | noItem => simp [allows, hmode] at hallows

omit [Std.TransOrd α] in
/-- What is offered in addition never helps where items are denied. -/
theorem Accepts.anti {rule : SetRule α} (hallows : rule.allows = false) {offered more : List α}
    (hmore : offered ⊆ more) (h : rule.Accepts more) : rule.Accepts offered := by
  have hmode : rule.mode = .noItem := by simpa [allows] using hallows
  rw [Accepts, hmode] at h ⊢
  exact h.imp_right fun hnone x hx => hnone x (hmore hx)

variable [ToString α]

/-- No items are no special case, as then there is nothing to name. -/
theorem check_deny_eq (items offered : List α) :
    (deny items).check offered = blame "requirement excludes"
      ((ItemSet.ofList offered).toList.filter (ItemSet.ofList items).contains) := by
  rw [check]
  split
  · rename_i hempty
    have hnil : (ItemSet.ofList items).toList = [] := List.isEmpty_iff.mp hempty
    have hnone : (ItemSet.ofList offered).toList.filter (ItemSet.ofList items).contains = [] := by
      simp [List.filter_eq_nil_iff, ItemSet.contains, hnil]
    rw [hnone]
    rfl
  · rfl

theorem check_requireAll_eq (items offered : List α) :
    (requireAll items).check offered = blame "capability doesn't support"
      ((ItemSet.ofList items).toList.filter fun x => !(ItemSet.ofList offered).contains x) := by
  rw [check]
  split
  · rename_i hempty
    have hnil : (ItemSet.ofList items).toList = [] := List.isEmpty_iff.mp hempty
    rw [hnil]
    rfl
  · rfl

variable [Std.LawfulEqOrd α]

theorem names_check_deny {items offered : List α}
    (hmet : ((deny items).check offered).met = false) :
    ((deny items).check offered).Names "requirement excludes"
      fun x => x ∈ offered ∧ x ∈ items := by
  rw [check_deny_eq] at hmet ⊢
  refine names_blame ((ItemSet.ofList offered).ascending.filter _) (fun x => ?_) hmet
  rw [List.mem_filter, ItemSet.contains_iff, ItemSet.mem_toList_ofList, ItemSet.mem_toList_ofList]

theorem names_check_requireAll {items offered : List α}
    (hmet : ((requireAll items).check offered).met = false) :
    ((requireAll items).check offered).Names "capability doesn't support"
      fun x => x ∈ items ∧ x ∉ offered := by
  rw [check_requireAll_eq] at hmet ⊢
  refine names_blame ((ItemSet.ofList items).ascending.filter _) (fun x => ?_) hmet
  rw [List.mem_filter, ItemSet.mem_toList_ofList, Bool.not_eq_true', ← Bool.not_eq_true,
    ItemSet.contains_iff, ItemSet.mem_toList_ofList]

/-- An item is offered or none is, if there are items at all. -/
theorem met_check_requireAny_eq {items : List α} (hitems : items ≠ []) (offered : List α) :
    ((requireAny items).check offered).met = !((deny items).check offered).met := by
  rw [Bool.eq_iff_iff, Bool.not_eq_true', ← Bool.not_eq_true, met_check, met_check,
    accepts_requireAny, accepts_deny, or_iff_right hitems]
  constructor
  · rintro ⟨x, hx, hitem⟩ hnone
    exact hnone x hx hitem
  · intro hsome
    simpa using hsome

/-- Not even the text depends on order and repetition. -/
theorem MadeOf.check_congr {rule rule' : SetRule α} {mode : Mode}
    {items items' offered offered' : List α} (hrule : rule.MadeOf mode items)
    (hrule' : rule'.MadeOf mode items') (hitems : ∀ x, x ∈ items' ↔ x ∈ items)
    (hoffered : ∀ x, x ∈ offered' ↔ x ∈ offered) : rule'.check offered' = rule.check offered := by
  rw [hrule.eq, hrule'.eq, check, check, ItemSet.ofList_congr hitems, ItemSet.ofList_congr hoffered]

/-- A rule made of a list decides, by its kind, whether its items are all offered, whether one of
them is, or whether none is, and without items it accepts everything. Lists with the same items are
answered alike, text included; a refusal by the first or the last kind of rule names exactly the
items that are missing or in common. To offer more can only turn what denies items against it, and
only a rule that denies; what asks for one of some items accepts just what the denial of them
refuses. -/
theorem check_decides {rule : SetRule α} {mode : Mode} {items : List α}
    (hrule : rule.MadeOf mode items) (offered : List α) :
    let answer := rule.check offered
    rule.mode = mode ∧
      (items = [] → answer = .ok) ∧
      (mode = .noItem →
        (answer.met = true ↔ ∀ x ∈ offered, x ∉ items) ∧
          (answer.met = false →
            answer.Names "requirement excludes" fun x => x ∈ offered ∧ x ∈ items)) ∧
      (mode = .everyItem →
        (answer.met = true ↔ ∀ x ∈ items, x ∈ offered) ∧
          (answer.met = false →
            answer.Names "capability doesn't support" fun x => x ∈ items ∧ x ∉ offered)) ∧
      (mode = .someItem →
        (answer.met = true ↔ items = [] ∨ ∃ x ∈ offered, x ∈ items)) ∧
      (∀ rule' items' offered', MadeOf rule' mode items' →
        (∀ x, x ∈ items' ↔ x ∈ items) → (∀ x, x ∈ offered' ↔ x ∈ offered) →
          rule'.check offered' = answer) ∧
      (∀ more, offered ⊆ more →
        (rule.allows = true → answer.met = true → (rule.check more).met = true) ∧
          (rule.allows = false → answer.met = false → (rule.check more).met = false)) ∧
      (items ≠ [] →
        ((requireAny items).check offered).met = !((deny items).check offered).met) := by
  intro answer
  refine ⟨congrArg SetRule.mode hrule.eq, fun hnil => ?_, fun hmode => ?_, fun hmode => ?_,
    fun hmode => ?_, ?_, fun more hmore => ⟨fun hallows hmet => ?_, fun hallows hmet => ?_⟩,
    fun hitems => met_check_requireAny_eq hitems offered⟩
  · subst hnil
    change rule.check offered = .ok
    rw [hrule.eq]
    rfl
  · obtain rfl : rule = deny items := by rw [hrule.eq, hmode]; rfl
    exact ⟨met_check.trans accepts_deny, names_check_deny⟩
  · obtain rfl : rule = requireAll items := by rw [hrule.eq, hmode]; rfl
    exact ⟨met_check.trans accepts_requireAll, names_check_requireAll⟩
  · obtain rfl : rule = requireAny items := by rw [hrule.eq, hmode]; rfl
    exact met_check.trans accepts_requireAny
  · intro rule' items' offered' hrule' hitems hoffered
    exact hrule.check_congr hrule' hitems hoffered
  · exact met_check.mpr ((met_check.mp hmet).mono hallows hmore)
  · rw [← Bool.not_eq_true, met_check] at hmet ⊢
    exact fun haccepts => hmet (haccepts.anti hallows hmore)

/-- Two kinds, one of them twice, are listed as supported and then as unsupported. -/
theorem check_decides_linux :
    let listed : List Os := [.windows, .linux, .windows]
    let what := "operating system"
    ofLists listed [] what = .ok (some (requireAny listed)) ∧
      ofLists [] listed what = .ok (some (deny listed)) ∧
      ((requireAny listed).check Os.ubuntu.ancestors).met = true ∧
      ((requireAny listed).check Os.freeBsd.ancestors).met = false ∧
      ((deny listed).check Os.freeBsd.ancestors).met = true ∧
      ((deny listed).check Os.ubuntu.ancestors).Names "requirement excludes"
        fun os => os ∈ Os.ubuntu.ancestors ∧ os ∈ listed := by
  intro listed what
  have hsupported : ofLists listed [] what = .ok (some (requireAny listed)) := rfl
  have hunsupported : ofLists [] listed what = .ok (some (deny listed)) := rfl
  have hany (os : Os) : ((requireAny listed).check os.ancestors).met = true ↔
      listed = [] ∨ ∃ x ∈ os.ancestors, x ∈ listed := by
    obtain ⟨-, -, -, -, hsome, -⟩ := check_decides (.ofLists hsupported) os.ancestors
    exact hsome rfl
  have hnone (os : Os) : ((deny listed).check os.ancestors).met = true ↔
      ∀ x ∈ os.ancestors, x ∉ listed := by
    obtain ⟨-, -, hdeny, -⟩ := check_decides (.ofLists hunsupported) os.ancestors
    exact (hdeny rfl).1
  obtain ⟨-, -, hdeny, -⟩ := check_decides (.ofLists hunsupported) Os.ubuntu.ancestors
  refine ⟨hsupported, hunsupported, (hany _).mpr (by decide), ?_, (hnone _).mpr (by decide),
    (hdeny rfl).2 (by decide)⟩
  exact Bool.eq_false_iff.mpr fun hmet => absurd ((hany _).mp hmet) (by decide)

end SetRule

end Testbed
