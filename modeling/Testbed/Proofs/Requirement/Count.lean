import Testbed.Proofs.Requirement.Acceptance

/-! # Counting nodes

For each shape the nodes that fit are counted, and the count is exact. It does
not depend on the order of the nodes, and more nodes never make it less. A count
out of range is explained by what each of the other nodes is missing, in order.
-/

namespace Testbed

theorem Finding.reasons_foldl_merge {α : Type} (part : α → Finding) (label : α → String)
    (xs : List α) (f : Finding) :
    (xs.foldl (fun f x => f.merge (part x) (label x)) f).reasons =
      f.reasons ++ xs.flatMap fun x => (part x).reasons.map (labelled (label x)) := by
  induction xs generalizing f with
  | nil => simp
  | cons x xs ih => simp [ih]

/-- A range without a maximum admits whatever is more. -/
theorem CountRange.Admits.mono {range : CountRange} (hmax : range.max = none) {m n : Nat}
    (hle : m ≤ n) (h : range.Admits m) : range.Admits n := by
  refine ⟨Nat.le_trans h.1 hle, fun max hsome => ?_⟩
  rw [hmax] at hsome
  cases hsome

namespace NodeShape

theorem fitting_perm (shape : NodeShape) {offers offers' : List NodeOffer}
    (h : offers'.Perm offers) : shape.fitting offers' = shape.fitting offers :=
  h.countP_eq _

theorem fitting_mono (shape : NodeShape) {offers more : List NodeOffer} (h : offers.Sublist more) :
    shape.fitting offers ≤ shape.fitting more :=
  h.countP_le

/-- Why a node does not fit, under the position of the shape and the name of the node if it has
one. -/
def misfit (position : Nat) (shape : NodeShape) (offer : NodeOffer) : List String :=
  (shape.check offer).reasons.map fun reason =>
    if offer.name = "" then s!"nodes[{position}]: {reason}"
    else s!"nodes[{position}]: {offer.name}: {reason}"

/-- What there is to say of the shape at a position: nothing if the number of nodes that fit is in
range, and else this number and why the other nodes do not fit. -/
def complaint (position : Nat) (shape : NodeShape) (offers : List NodeOffer) : List String :=
  if shape.count.Admits (shape.fitting offers) then []
  else
    s!"nodes[{position}].node_count: {shape.fitting offers} is not in range {shape.count.text}" ::
      (offers.filter fun offer => ¬ shape.Fits offer).flatMap (shape.misfit position)

theorem reasons_foldl_tallyStep (shape : NodeShape) (offers : List NodeOffer)
    (counted : UInt32 × Finding) :
    (offers.foldl shape.tallyStep counted).2.reasons = counted.2.reasons ++
      (offers.filter fun offer => ¬ shape.Fits offer).flatMap fun offer =>
        (shape.check offer).reasons.map (Finding.labelled offer.name) := by
  -- The count goes its own way: a step has reasons to add or a node to count, and never both.
  induction offers generalizing counted with
  | nil => simp
  | cons offer offers ih =>
    rw [List.foldl_cons, ih]
    by_cases hfits : shape.Fits offer
    · simp [tallyStep_of_fits hfits, hfits]
    · simp [tallyStep_of_not_fits hfits, hfits]

theorem labelled_misfit (position : Nat) (name reason : String) :
    Finding.labelled s!"nodes[{position}]" (Finding.labelled name reason) =
      if name = "" then s!"nodes[{position}]: {reason}"
      else s!"nodes[{position}]: {name}: {reason}" := by
  by_cases hname : name = "" <;> simp [Finding.labelled, hname, toString, String.append_assoc]

theorem labelled_count (position : Nat) (n : UInt32) (range : CountRange) :
    Finding.labelled s!"nodes[{position}].node_count" s!"{n} is not in range {range.text}" =
      s!"nodes[{position}].node_count: {n.toNat} is not in range {range.text}" := by
  simp [Finding.labelled, toString, String.append_assoc]

theorem reasons_checkCount (position : Nat) (shape : NodeShape) {offers : List NodeOffer}
    (hoffers : offers.length < UInt32.size) :
    (shape.checkCount position offers).reasons = shape.complaint position offers := by
  have hfitting : (shape.tally offers).1.toNat = shape.fitting offers := shape.toNat_tally hoffers
  have hcontains : shape.count.contains (shape.tally offers).1 = true ↔
      shape.count.Admits (shape.fitting offers) := by
    rw [CountRange.contains_iff_admits, hfitting]
  simp only [checkCount, complaint, CountRange.met_check]
  by_cases hadmits : shape.count.Admits (shape.fitting offers)
  · rw [if_pos (hcontains.mpr hadmits), if_pos hadmits]
    rfl
  · have hmisfits := shape.reasons_foldl_tallyStep offers (0, .ok)
    rw [← tally_eq] at hmisfits
    have hmisfit (offer : NodeOffer) :
        ((shape.check offer).reasons.map (Finding.labelled offer.name)).map
          (Finding.labelled s!"nodes[{position}]") = shape.misfit position offer := by
      simp only [List.map_map, misfit, ← labelled_misfit]
      rfl
    rw [if_neg (mt hcontains.mp hadmits), if_neg hadmits, CountRange.check,
      if_neg (mt hcontains.mp hadmits), Finding.reasons_merge, Finding.reasons_merge, hmisfits,
      ← hfitting, ← labelled_count]
    simp only [Finding.reasons_ok, Finding.reasons_failed, List.nil_append, List.map_cons,
      List.map_nil, List.map_flatMap, hmisfit, List.singleton_append]

end NodeShape

namespace Topology

theorem reasons_check (shapes : List NodeShape) {offers : List NodeOffer}
    (hoffers : offers.length < UInt32.size) :
    (check shapes offers).reasons =
      shapes.zipIdx.flatMap fun (shape, position) => shape.complaint position offers := by
  have hfold := Finding.reasons_foldl_merge (fun shape : NodeShape × Nat =>
    shape.1.checkCount shape.2 offers) (fun _ => "") shapes.zipIdx .ok
  change (check shapes offers).reasons = _ at hfold
  have hlabel : Finding.labelled "" = id := funext Finding.labelled_empty
  simpa only [hlabel, List.map_id, NodeShape.reasons_checkCount _ _ hoffers, Finding.reasons_ok,
    List.nil_append] using hfold

theorem Meets.perm {shapes shapes' : List NodeShape} {offers offers' : List NodeOffer}
    (hshapes : shapes'.Perm shapes) (hoffers : offers'.Perm offers) :
    Meets shapes' offers' ↔ Meets shapes offers := by
  simp only [Meets, hshapes.mem_iff, NodeShape.fitting_perm _ hoffers]

theorem Meets.mono {shapes : List NodeShape} (hmax : ∀ shape ∈ shapes, shape.count.max = none)
    {offers more : List NodeOffer} (hmore : offers.Sublist more) (h : Meets shapes offers) :
    Meets shapes more :=
  fun shape hshape => (h shape hshape).mono (hmax shape hshape) (shape.fitting_mono hmore)

/-- For each shape the nodes that fit are counted without ever wrapping, and the answer is whether
each count is in its range. It depends on the order of neither the shapes nor the nodes, and more
nodes can turn it only against a maximum. The shapes out of range are complained of in their order,
each with its count and with all reasons against each node that does not fit. -/
theorem check_counts (shapes : List NodeShape) (offers : List NodeOffer)
    (hoffers : offers.length < UInt32.size) :
    (∀ shape ∈ shapes, ∀ past, past <+: offers →
        (shape.tally past).1.toNat = shape.fitting past) ∧
      ((check shapes offers).met = true ↔
        ∀ shape ∈ shapes, shape.count.Admits (offers.countP fun offer => shape.Fits offer)) ∧
      (∀ shapes' offers', List.Perm shapes' shapes → List.Perm offers' offers →
        (check shapes' offers').met = (check shapes offers).met) ∧
      ((∀ shape ∈ shapes, shape.count.max = none) → ∀ more, offers.Sublist more →
        more.length < UInt32.size → (check shapes offers).met = true →
          (check shapes more).met = true) ∧
      (check shapes offers).reasons =
        shapes.zipIdx.flatMap fun (shape, position) => shape.complaint position offers := by
  refine ⟨fun shape _ past hpast => ?_, met_check shapes hoffers,
    fun shapes' offers' hshapes hperm => ?_, fun hmax more hmore hlength hmet => ?_,
    reasons_check shapes hoffers⟩
  -- What has been counted so far is a count of fewer nodes.
  · exact shape.toNat_tally (Nat.lt_of_le_of_lt hpast.length_le hoffers)
  · have hoffers' : offers'.length < UInt32.size := by rwa [hperm.length_eq]
    rw [Bool.eq_iff_iff, met_check shapes' hoffers', met_check shapes hoffers,
      Meets.perm hshapes hperm]
  · rw [met_check shapes hoffers] at hmet
    exact (met_check shapes hlength).mpr (hmet.mono hmax hmore)

/-- Two nodes with two interfaces, and two nodes with a graphics card and no more. -/
def pairs : List NodeShape := [
  { count := .atLeast 2, nics := .atLeast 2 },
  { count := .exactly 2, features := some (.requireAll ["gpu"]) }]

/-- One of three nodes has a graphics card, and another one has no name. -/
def oneCard : List NodeOffer := [
  { name := "a", nics := 2, features := .ofList ["gpu"] },
  { name := "" },
  { name := "b", nics := 3 }]

theorem check_counts_oneCard :
    (check pairs oneCard).met = false ∧
      (check pairs oneCard).reasons = [
        "nodes[1].node_count: 1 is not in range [2, 2]",
        "nodes[1]: features: capability doesn't support [gpu]",
        "nodes[1]: b: features: capability doesn't support [gpu]"] := by
  obtain ⟨-, hmet, -, -, hreasons⟩ := check_counts pairs oneCard (by decide)
  have hcards : ¬ ∀ shape ∈ pairs,
      shape.count.Admits (oneCard.countP fun offer => shape.Fits offer) := by decide
  exact ⟨Bool.eq_false_iff.mpr (mt hmet.mp hcards), hreasons.trans (by decide)⟩

end Topology

end Testbed
