import Testbed.Proofs.Requirement.Meaning

/-! # Features demanded both ways

The two lists of features are never compared with each other, so a feature can
stand in both. It is then required of the nodes and excluded from them, which no
node can comply with: such demands are accepted, and what they lead to is met by
no environment unless no node is asked for.
-/

namespace Testbed

variable {σ : Type}

namespace NodeShape

/-- A node without the feature does not fit, as all of some features are required. -/
def Requires (shape : NodeShape) (name : String) : Prop :=
  ∃ rule, shape.features = some rule ∧ rule.mode = .everyItem ∧ name ∈ rule.items.toList

/-- A node with the feature does not fit, as it is denied. -/
def Excludes (shape : NodeShape) (name : String) : Prop :=
  ∃ rule, shape.excluded = some rule ∧ rule.mode = .noItem ∧ name ∈ rule.items.toList

theorem fst_foldl_tallyStep_of_none_fits (shape : NodeShape) {offers : List NodeOffer}
    (h : ∀ offer ∈ offers, ¬ shape.Fits offer) (counted : UInt32 × Finding) :
    (offers.foldl shape.tallyStep counted).1 = counted.1 := by
  induction offers generalizing counted with
  | nil => rfl
  | cons offer offers ih =>
    obtain ⟨hoffer, hoffers⟩ := List.forall_mem_cons.mp h
    rw [List.foldl_cons, tallyStep_of_not_fits hoffer, ih hoffers]

theorem met_checkCount_eq (position : Nat) (shape : NodeShape) (offers : List NodeOffer) :
    (shape.checkCount position offers).met = shape.count.contains (shape.tally offers).1 := by
  rw [← CountRange.met_check]
  simp only [checkCount]
  split <;> simp_all

end NodeShape

/-- Where no node can fit, however many there are, only a range with zero is met. -/
theorem Topology.met_check_singleton_of_none_fits {shape : NodeShape}
    (h : ∀ offer, ¬ shape.Fits offer) (offers : List NodeOffer) :
    (check [shape] offers).met = shape.count.contains 0 := by
  have hcount : (check [shape] offers).met = (shape.checkCount 0 offers).met := rfl
  have hnone : (shape.tally offers).1 = 0 :=
    shape.fst_foldl_tallyStep_of_none_fits (fun offer _ => h offer) (0, .ok)
  rw [hcount, NodeShape.met_checkCount_eq, hnone]

theorem Requirement.topology_of_met {r : Requirement} {e : Environment σ} {thorough : Bool}
    (hmet : (r.check e thorough).met = true) : (Topology.check r.nodes e.offers).met = true := by
  rw [met_check_eq_thorough, check_eq, Bool.or_true, if_pos rfl, met_lookAtOs] at hmet
  obtain ⟨hoffer, -⟩ := hmet
  simp only [checkOffer, Bool.or_true, if_true, Finding.met_merge, Bool.and_eq_true] at hoffer
  exact hoffer.1.2

namespace Demands

/-- The feature is demanded both ways. -/
def Clash (d : Demands) (name : String) : Prop :=
  name ∈ d.supportedFeatures ∧ name ∈ d.unsupportedFeatures

variable {d : Demands}

theorem requires_node (hshape : d.shape = {}) {name : String} :
    d.node.Requires name ↔ name ∈ d.supportedFeatures := by
  by_cases hnil : d.supportedFeatures = []
  · simp [NodeShape.Requires, node, hshape, hnil]
  · simp [NodeShape.Requires, node, hnil, SetRule.requireAll, ItemSet.mem_toList_ofList]

theorem excludes_node (hshape : d.shape = {}) {name : String} :
    d.node.Excludes name ↔ name ∈ d.unsupportedFeatures := by
  by_cases hnil : d.unsupportedFeatures = []
  · simp [NodeShape.Excludes, node, hshape, hnil]
  · simp [NodeShape.Excludes, node, hnil, SetRule.deny, ItemSet.mem_toList_ofList]

/-- The node that offers what is demanded, and nothing else. -/
def leastOffer (d : Demands) : NodeOffer where
  name := ""
  nics := d.minNics
  features := .ofList d.supportedFeatures

theorem suits_leastOffer (h : ∀ name, ¬ d.Clash name) : d.Suits d.leastOffer where
  nics := UInt32.le_refl _
  supported _ hname := ItemSet.mem_toList_ofList.mpr hname
  unsupported name hname hoffered := h name ⟨ItemSet.mem_toList_ofList.mp hoffered, hname⟩

theorem exists_suits_iff : (∃ offer, d.Suits offer) ↔ ∀ name, ¬ d.Clash name := by
  constructor
  · rintro ⟨offer, hoffer⟩ name ⟨hsupported, hunsupported⟩
    exact hoffer.unsupported name hunsupported (hoffer.supported name hsupported)
  · exact fun h => ⟨d.leastOffer, suits_leastOffer h⟩

theorem exists_met_check_iff (hshape : d.shape = {}) :
    (∃ offers, (Topology.check [d.node] offers).met = true) ↔
      d.minCount = 0 ∨ ∀ name, ¬ d.Clash name := by
  constructor
  · rintro ⟨offers, hmet⟩
    by_cases hclash : ∀ name, ¬ d.Clash name
    · exact Or.inr hclash
    · rw [← exists_suits_iff, not_exists] at hclash
      rw [Topology.met_check_singleton_of_none_fits fun offer => mt (fits_node hshape).mp
        (hclash offer)] at hmet
      have hzero : d.minCount ≤ 0 := (CountRange.contains_iff.mp hmet).1
      exact Or.inl (UInt32.le_zero_iff.mp hzero)
  · intro h
    let offers := List.replicate d.minCount.toNat d.leastOffer
    have hlength : offers.length < UInt32.size := by
      simpa [offers] using d.minCount.toNat_lt
    refine ⟨offers, (Topology.met_check _ hlength).mpr ((meets_node hshape).mpr ?_)⟩
    rcases h with hzero | hclash
    · simp [hzero]
    · simp [offers, List.countP_replicate, suits_leastOffer hclash]

theorem default_shape_ofLast {demands : List Demand}
    (h : ∀ shape, Demand.shape shape ∉ demands) : (ofLast demands).shape = {} := by
  change (Demand.last? Demand.shape? demands).getD {} = {}
  rw [Demand.last?_shape?_eq_none h]
  rfl

theorem ofDemands_eq_ok {demands : List Demand} {r : Requirement}
    (h : Requirement.ofDemands demands = .ok r) :
    (ofLast demands).fault? = none ∧ r = (ofLast demands).requirement := by
  rw [ofDemands_eq] at h
  cases hfault : (ofLast demands).fault? with
  | some fault => simp [hfault] at h
  | none => exact ⟨rfl, by simpa [hfault] using h.symm⟩

/-- Demands are never refused for features. -/
theorem exists_ofDemands_with_features {demands : List Demand}
    (h : (ofLast demands).fault? = none) (supported unsupported : List String) :
    ∃ r, Requirement.ofDemands
      (demands ++ [.supportedFeatures supported, .unsupportedFeatures unsupported]) = .ok r := by
  have hsame : (((ofLast demands).add (.supportedFeatures supported)).add
      (.unsupportedFeatures unsupported)).fault? = none := h
  rw [List.append_cons]
  simp only [ofDemands_eq, ofLast_concat, hsame]
  exact ⟨_, rfl⟩

end Demands

namespace Requirement

/-- Demands that start from no shape are accepted whatever features they ask for. Nodes are then
required to have, and forbidden to have, just the features that were demanded both ways last. If
there are any, no node complies, and a record with this requirement is turned away from every
environment unless the count may be zero; if there are none, some nodes comply. -/
theorem ofDemands_clash {demands : List Demand} (hshape : ∀ shape, Demand.shape shape ∉ demands)
    {r : Requirement} (hr : ofDemands demands = .ok r) :
    let d := Demands.ofLast demands
    (∃ node, r.nodes = [node] ∧
        (∀ name, node.Requires name ∧ node.Excludes name ↔ d.Clash name) ∧
        ((∃ offer, (node.check offer).met = true) ↔ ∀ name, ¬ d.Clash name)) ∧
      ((∃ offers, (Topology.check r.nodes offers).met = true) ↔
        d.minCount = 0 ∨ ∀ name, ¬ d.Clash name) ∧
      (∀ name, d.Clash name → d.minCount ≠ 0 →
        ∀ (σ : Type) (record : Record σ) (e : Environment σ) (thorough : Bool) (w : World σ),
          record.testCase.requirement = r → ((record.check e thorough).run w).value.1 = false) ∧
      ∀ supported unsupported, ∃ r', ofDemands
        (demands ++ [.supportedFeatures supported, .unsupportedFeatures unsupported]) = .ok r' := by
  intro d
  have hdefault : d.shape = {} := Demands.default_shape_ofLast hshape
  obtain ⟨hfault, rfl⟩ := Demands.ofDemands_eq_ok hr
  have hmeetable := Demands.exists_met_check_iff hdefault
  refine ⟨⟨d.node, rfl, fun name => ?_, ?_⟩, hmeetable, ?_,
    Demands.exists_ofDemands_with_features hfault⟩
  · rw [Demands.requires_node hdefault, Demands.excludes_node hdefault]
    rfl
  · simp only [NodeShape.met_check, Demands.fits_node hdefault]
    exact Demands.exists_suits_iff
  · intro name hclash hcount σ record e thorough w hrecord
    rw [Bool.eq_false_iff]
    intro hmet
    have hchecked : (record.testCase.requirement.check e thorough).met = true := hmet
    rw [hrecord] at hchecked
    rcases hmeetable.mp ⟨e.offers, topology_of_met hchecked⟩ with hzero | hnone
    · exact hcount hzero
    · exact hnone name hclash

/-- Two nodes with a disk, with a graphics card and without one. -/
def withAndWithout : List Demand :=
  [.minCount 2, .unsupportedFeatures ["gpu"], .supportedFeatures ["disk", "gpu"]]

theorem ofDemands_clash_gpu : ∃ r, ofDemands withAndWithout = .ok r ∧ ∃ node, r.nodes = [node] ∧
    (node.Requires "gpu" ∧ node.Excludes "gpu") ∧ ¬ (node.Requires "disk" ∧ node.Excludes "disk") ∧
    ∀ offer, (node.check offer).met = false := by
  have hshape (shape : NodeShape) : Demand.shape shape ∉ withAndWithout := by
    simp [withAndWithout]
  have hr : ofDemands withAndWithout = .ok (Demands.ofLast withAndWithout).requirement := rfl
  have hgpu : (Demands.ofLast withAndWithout).Clash "gpu" := ⟨by decide, by decide⟩
  have hdisk : ¬ (Demands.ofLast withAndWithout).Clash "disk" := fun h => absurd h.2 (by decide)
  obtain ⟨⟨node, hnodes, hboth, hmeetable⟩, -⟩ := ofDemands_clash hshape hr
  refine ⟨_, hr, node, hnodes, (hboth _).mpr hgpu, mt (hboth _).mp hdisk, fun offer => ?_⟩
  rw [Bool.eq_false_iff]
  exact fun hmet => hmeetable.mp ⟨offer, hmet⟩ "gpu" hgpu

/-- The same feature is required and excluded, and the demands are accepted. -/
theorem clash_accepted :
    ¬ ∀ (demands : List Demand) (r : Requirement), (∀ shape, Demand.shape shape ∉ demands) →
      ofDemands demands = .ok r → ∀ node ∈ r.nodes, ∀ name,
        ¬ (node.Requires name ∧ node.Excludes name) := by
  intro hall
  have hr : ofDemands [.supportedFeatures ["gpu"], .unsupportedFeatures ["gpu"]] =
      .ok ⟨[{ features := some (.requireAll ["gpu"]), excluded := some (.deny ["gpu"]) }],
        .connected, none, none⟩ := rfl
  refine hall _ _ (by simp) hr _ List.mem_cons_self "gpu" ⟨⟨_, rfl, rfl, ?_⟩, ⟨_, rfl, rfl, ?_⟩⟩
  · decide
  · decide

end Requirement

end Testbed
