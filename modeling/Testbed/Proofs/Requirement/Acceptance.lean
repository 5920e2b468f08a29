import Testbed.Requirement.Topology

/-! # What requirements accept

Plain predicates for what ranges, rules, shapes and topologies accept, and that
a check is met just when the predicate holds.
-/

namespace Testbed

namespace Finding

@[simp] theorem met_ok : ok.met = true := rfl

@[simp] theorem met_failed (reason : String) : (failed reason).met = false := rfl

@[simp] theorem reasons_ok : ok.reasons = [] := rfl

@[simp] theorem reasons_failed (reason : String) : (failed reason).reasons = [reason] := rfl

theorem met_foldl_merge {α : Type} (part : α → Finding) (label : α → String) (xs : List α)
    (f : Finding) :
    (xs.foldl (fun f x => f.merge (part x) (label x)) f).met =
      (f.met && xs.all fun x => (part x).met) := by
  induction xs generalizing f with
  | nil => simp
  | cons x xs ih => simp [ih, Bool.and_assoc]

end Finding

/-- The number lies in the range. -/
def CountRange.Admits (range : CountRange) (n : Nat) : Prop :=
  range.min.toNat ≤ n ∧ ∀ max, range.max = some max → n ≤ max.toNat

theorem CountRange.contains_iff_admits {range : CountRange} {n : UInt32} :
    range.contains n = true ↔ range.Admits n.toNat := by
  simp only [contains_iff, Admits, UInt32.le_iff_toNat_le]

instance (range : CountRange) (n : Nat) : Decidable (range.Admits n) :=
  decidable_of_iff (range.min.toNat ≤ n ∧ range.max.all (n ≤ ·.toNat)) <| by
    cases hmax : range.max <;> simp [CountRange.Admits, hmax]

namespace SetRule

variable {α : Type} [Ord α]

/-- What is offered relates to the items as the rule says; no items say nothing. -/
def Accepts (rule : SetRule α) (offered : List α) : Prop :=
  rule.items.toList = [] ∨
    match rule.mode with
    | .everyItem => ∀ x ∈ rule.items.toList, x ∈ offered
    | .someItem => ∃ x ∈ offered, x ∈ rule.items.toList
    | .noItem => ∀ x ∈ offered, x ∉ rule.items.toList

omit [Ord α] in
theorem met_blame [ToString α] (reason : String) (items : List α) :
    (blame reason items).met = true ↔ items = [] := by
  cases items with
  | nil => simp [blame]
  | cons x items => simp [blame]

variable [Std.TransOrd α] [Std.LawfulEqOrd α] [ToString α]

theorem met_check {rule : SetRule α} {offered : List α} :
    (rule.check offered).met = true ↔ rule.Accepts offered := by
  rw [check, Accepts]
  by_cases hempty : rule.items.toList = []
  · simp [ItemSet.isEmpty, hempty]
  · simp only [ItemSet.isEmpty, List.isEmpty_iff, hempty, if_false, false_or]
    cases rule.mode with
    | everyItem =>
      simp [met_blame, List.filter_eq_nil_iff, ItemSet.contains_iff, ItemSet.mem_toList_ofList]
    | someItem =>
      have hany : (ItemSet.ofList offered).toList.any rule.items.contains = true ↔
          ∃ x ∈ offered, x ∈ rule.items.toList := by
        simp [ItemSet.contains_iff, ItemSet.mem_toList_ofList]
      rw [← hany]
      dsimp only
      split <;> simp [*]
    | noItem =>
      simp [met_blame, List.filter_eq_nil_iff, ItemSet.contains_iff, ItemSet.mem_toList_ofList]

instance (rule : SetRule α) (offered : List α) : Decidable (rule.Accepts offered) :=
  decidable_of_iff _ met_check

end SetRule

namespace NodeShape

/-- The node has interfaces as the shape says, and all its rules accept the features. -/
structure Fits (shape : NodeShape) (offer : NodeOffer) : Prop where
  nics : shape.nics.Admits offer.nics.toNat
  features : ∀ rule, shape.features = some rule → rule.Accepts offer.features.toList
  excluded : ∀ rule, shape.excluded = some rule → rule.Accepts offer.features.toList

theorem met_checkFeatures {rule? : Option (SetRule String)} {offer : NodeOffer} :
    (checkFeatures rule? offer).met = true ↔
      ∀ rule, rule? = some rule → rule.Accepts offer.features.toList := by
  cases rule? with
  | none => simp [checkFeatures]
  | some rule => simp [checkFeatures, SetRule.met_check]

theorem met_check {shape : NodeShape} {offer : NodeOffer} :
    (shape.check offer).met = true ↔ shape.Fits offer := by
  simp only [check, Finding.met_merge, Finding.met_ok, Bool.true_and, Bool.and_eq_true,
    CountRange.met_check, CountRange.contains_iff_admits, met_checkFeatures]
  exact ⟨fun ⟨⟨hn, hf⟩, he⟩ => ⟨hn, hf, he⟩, fun ⟨hn, hf, he⟩ => ⟨⟨hn, hf⟩, he⟩⟩

instance (shape : NodeShape) (offer : NodeOffer) : Decidable (shape.Fits offer) :=
  decidable_of_iff _ met_check

/-- The number of nodes that fit. -/
def fitting (shape : NodeShape) (offers : List NodeOffer) : Nat :=
  offers.countP fun offer => shape.Fits offer

/-- How one node changes the count and the reasons. -/
def tallyStep (shape : NodeShape) (counted : UInt32 × Finding) (offer : NodeOffer) :
    UInt32 × Finding :=
  let finding := shape.check offer
  if finding.met then (counted.1 + 1, counted.2)
  else (counted.1, counted.2.merge finding offer.name)

theorem tally_eq (shape : NodeShape) (offers : List NodeOffer) :
    shape.tally offers = offers.foldl shape.tallyStep (0, .ok) := rfl

theorem tallyStep_of_fits {shape : NodeShape} {offer : NodeOffer} (h : shape.Fits offer)
    (counted : UInt32 × Finding) :
    shape.tallyStep counted offer = (counted.1 + 1, counted.2) := by
  rw [tallyStep, if_pos (met_check.mpr h)]

theorem tallyStep_of_not_fits {shape : NodeShape} {offer : NodeOffer} (h : ¬ shape.Fits offer)
    (counted : UInt32 × Finding) :
    shape.tallyStep counted offer =
      (counted.1, counted.2.merge (shape.check offer) offer.name) := by
  rw [tallyStep, if_neg (mt met_check.mp h)]

theorem toNat_foldl_tallyStep (shape : NodeShape) {offers : List NodeOffer}
    {counted : UInt32 × Finding} (h : counted.1.toNat + offers.length < UInt32.size) :
    (offers.foldl shape.tallyStep counted).1.toNat =
      counted.1.toNat + shape.fitting offers := by
  induction offers generalizing counted with
  | nil => rfl
  | cons offer offers ih =>
    rw [List.length_cons] at h
    rw [List.foldl_cons, fitting, List.countP_cons, ← fitting]
    by_cases hfits : shape.Fits offer
    · have hnext : (counted.1 + 1).toNat = counted.1.toNat + 1 := by
        rw [UInt32.toNat_add]
        exact Nat.mod_eq_of_lt (by change counted.1.toNat + 1 < UInt32.size; omega)
      rw [tallyStep_of_fits hfits, ih (by rw [hnext]; omega), hnext]
      simp [hfits]
      omega
    · rw [tallyStep_of_not_fits hfits, ih (by simp only; omega)]
      simp [hfits]

/-- Fewer nodes than a word can count are counted without wrapping. -/
theorem toNat_tally (shape : NodeShape) {offers : List NodeOffer}
    (h : offers.length < UInt32.size) : (shape.tally offers).1.toNat = shape.fitting offers := by
  rw [tally_eq, toNat_foldl_tallyStep shape (by simpa using h)]
  simp

theorem met_checkCount (position : Nat) (shape : NodeShape) {offers : List NodeOffer}
    (h : offers.length < UInt32.size) :
    (shape.checkCount position offers).met = true ↔ shape.count.Admits (shape.fitting offers) := by
  rw [← toNat_tally shape h, ← CountRange.contains_iff_admits, ← CountRange.met_check]
  simp only [checkCount]
  split <;> simp_all

end NodeShape

namespace Topology

/-- For each shape the number of nodes that fit lies in its range. -/
def Meets (shapes : List NodeShape) (offers : List NodeOffer) : Prop :=
  ∀ shape ∈ shapes, shape.count.Admits (shape.fitting offers)

theorem met_check (shapes : List NodeShape) {offers : List NodeOffer}
    (h : offers.length < UInt32.size) : (check shapes offers).met = true ↔ Meets shapes offers := by
  have hfold := Finding.met_foldl_merge (fun shape : NodeShape × Nat =>
    shape.1.checkCount shape.2 offers) (fun _ => "") shapes.zipIdx .ok
  rw [Finding.met_ok, Bool.true_and] at hfold
  change (check shapes offers).met = _ at hfold
  rw [hfold, List.all_eq_true]
  constructor
  · intro hall shape hshape
    obtain ⟨position, hposition⟩ := List.getElem?_of_mem hshape
    exact (shape.met_checkCount position h).mp
      (hall (shape, position) (List.mem_zipIdx_iff_getElem?.mpr hposition))
  · rintro hmeets ⟨shape, position⟩ hshape
    exact (shape.met_checkCount position h).mpr
      (hmeets shape (List.mem_of_getElem? (List.mem_zipIdx_iff_getElem?.mp hshape)))

end Topology

end Testbed
