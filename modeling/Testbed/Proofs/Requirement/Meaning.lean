import Testbed.Proofs.Requirement.Connection
import Testbed.Proofs.Requirement.Demands
import Testbed.Proofs.Requirement.Inclusion

/-! # What demands mean

Demands that start from no shape of their own are read as they stand. Both sides
of a list are a fault, and so are operating systems on an environment that is
only deployed. Demands without a fault are a requirement, and it is met just by
the environments that do all that was demanded last.
-/

namespace Testbed

variable {σ : Type}

namespace SetRule

variable {α : Type} [Ord α] [Std.TransOrd α]

/-- The rule for items that are listed on one side at most. -/
def ofSides (supported unsupported : List α) : Option (SetRule α) :=
  if supported ≠ [] then some (requireAny supported)
  else if unsupported ≠ [] then some (deny unsupported)
  else none

theorem ofLists_eq (supported unsupported : List α) (what : String) :
    ofLists supported unsupported what =
      if supported ≠ [] ∧ unsupported ≠ [] then .error (.bothListed what)
      else .ok (ofSides supported unsupported) := by
  cases supported <;> cases unsupported <;> rfl

theorem isSome_ofSides (supported unsupported : List α) :
    (ofSides supported unsupported).isSome = true ↔ supported ≠ [] ∨ unsupported ≠ [] := by
  cases supported <;> cases unsupported <;> simp [ofSides]

variable [Std.LawfulEqOrd α]

theorem accepts_ofSides {supported unsupported : List α}
    (h : ¬ (supported ≠ [] ∧ unsupported ≠ [])) {offered : List α} :
    (∀ rule, ofSides supported unsupported = some rule → rule.Accepts offered) ↔
      (supported ≠ [] → ∃ x ∈ offered, x ∈ supported) ∧ ∀ x ∈ offered, x ∉ unsupported := by
  by_cases hsupported : supported = []
  · by_cases hunsupported : unsupported = []
    · simp [ofSides, hsupported, hunsupported]
    · simp [ofSides, hsupported, hunsupported, accepts_deny]
  · have hunsupported : unsupported = [] := by
      by_cases hnil : unsupported = []
      · exact hnil
      · exact absurd ⟨hsupported, hnil⟩ h
    simp [ofSides, hsupported, hunsupported, accepts_requireAny]

end SetRule

namespace Demand

theorem last?_shape?_eq_none {demands : List Demand} (h : ∀ shape, Demand.shape shape ∉ demands) :
    last? shape? demands = none := by
  have hnone : demands.filterMap shape? = [] := by
    refine List.filterMap_eq_nil_iff.mpr fun demand hdemand => ?_
    cases demand with
    | shape shape => exact absurd hdemand (h shape)
    | _ => rfl
  rw [last?, hnone]
  rfl

end Demand

namespace Demands

open Demand

/-- The first contradiction in what is demanded. -/
def fault? (d : Demands) : Option Requirement.Error :=
  if d.supportedPlatforms ≠ [] ∧ d.unsupportedPlatforms ≠ [] then
    some (.rule (.bothListed "platform type"))
  else if d.supportedOs ≠ [] ∧ d.unsupportedOs ≠ [] then
    some (.rule (.bothListed "operating system"))
  else if d.stage = .deployed ∧ (d.supportedOs ≠ [] ∨ d.unsupportedOs ≠ []) then
    some .osNeedsConnection
  else none

/-- The node has the interfaces and the features that are demanded. -/
structure Suits (d : Demands) (offer : NodeOffer) : Prop where
  nics : d.minNics ≤ offer.nics
  supported : ∀ name ∈ d.supportedFeatures, name ∈ offer.features.toList
  unsupported : ∀ name ∈ d.unsupportedFeatures, name ∉ offer.features.toList

instance (d : Demands) (offer : NodeOffer) : Decidable (d.Suits offer) :=
  decidable_of_iff (d.minNics ≤ offer.nics ∧
    (∀ name ∈ d.supportedFeatures, name ∈ offer.features.toList) ∧
    ∀ name ∈ d.unsupportedFeatures, name ∉ offer.features.toList)
    ⟨fun ⟨hnics, hsupported, hunsupported⟩ => ⟨hnics, hsupported, hunsupported⟩,
      fun ⟨hnics, hsupported, hunsupported⟩ => ⟨hnics, hsupported, hunsupported⟩⟩

/-- The environment does all that is demanded. An empty list of what is supported demands nothing,
and else an operating system has to be known. -/
structure MetBy (d : Demands) (e : Environment σ) : Prop where
  not_deleted : e.stage ≠ .deleted
  stage : d.stage.ctorIdx ≤ e.stage.ctorIdx
  nodes : d.minCount.toNat ≤ e.offers.countP fun offer => d.Suits offer
  platform : d.supportedPlatforms ≠ [] → e.platform ∈ d.supportedPlatforms
  not_platform : e.platform ∉ d.unsupportedPlatforms
  os : e.stage = .connected → ∀ node ∈ e.nodes, d.supportedOs ≠ [] →
    ∃ os, node.os = some os ∧ ∃ base ∈ d.supportedOs, os.isA base = true
  not_os : e.stage = .connected → ∀ node ∈ e.nodes, ∀ os, node.os = some os →
    ∀ base ∈ d.unsupportedOs, os.isA base = false

/-- What demands without a fault require. -/
def requirement (d : Demands) : Requirement :=
  ⟨[d.node], d.stage, SetRule.ofSides d.supportedPlatforms d.unsupportedPlatforms,
    SetRule.ofSides d.supportedOs d.unsupportedOs⟩

theorem ofDemands_eq (demands : List Demand) :
    Requirement.ofDemands demands =
      match (ofLast demands).fault? with
      | some fault => .error fault
      | none => .ok (ofLast demands).requirement := by
  simp only [Requirement.ofDemands, ofList_eq, SetRule.ofLists_eq, fault?]
  -- The faults are looked for in this order, and the first one is the answer.
  by_cases hplatforms : (ofLast demands).supportedPlatforms ≠ [] ∧
      (ofLast demands).unsupportedPlatforms ≠ []
  · simp only [if_pos hplatforms]
  · by_cases hos : (ofLast demands).supportedOs ≠ [] ∧ (ofLast demands).unsupportedOs ≠ []
    · simp only [if_neg hplatforms, if_pos hos]
    · simp only [if_neg hplatforms, if_neg hos, Requirement.make, SetRule.isSome_ofSides]
      split <;> rfl

variable {d : Demands}

theorem fits_node (hshape : d.shape = {}) {offer : NodeOffer} :
    d.node.Fits offer ↔ d.Suits offer := by
  have hnics : (CountRange.atLeast d.minNics).Admits offer.nics.toNat ↔ d.minNics ≤ offer.nics := by
    simp [CountRange.Admits, CountRange.atLeast, UInt32.le_iff_toNat_le]
  have hsupported : (∀ rule, d.node.features = some rule → rule.Accepts offer.features.toList) ↔
      ∀ name ∈ d.supportedFeatures, name ∈ offer.features.toList := by
    by_cases hnil : d.supportedFeatures = []
    · simp [node, hshape, hnil]
    · simp [node, hnil, SetRule.accepts_requireAll]
  have hunsupported : (∀ rule, d.node.excluded = some rule → rule.Accepts offer.features.toList) ↔
      ∀ name ∈ d.unsupportedFeatures, name ∉ offer.features.toList := by
    by_cases hnil : d.unsupportedFeatures = []
    · simp [node, hshape, hnil]
    · simp only [node, if_neg hnil, Option.some.injEq, forall_eq', SetRule.accepts_deny]
      exact ⟨fun h name hname hoffered => h name hoffered hname,
        fun h name hoffered hname => h name hname hoffered⟩
  constructor
  · rintro ⟨hn, hs, hu⟩
    exact ⟨hnics.mp hn, hsupported.mp hs, hunsupported.mp hu⟩
  · rintro ⟨hn, hs, hu⟩
    exact ⟨hnics.mpr hn, hsupported.mpr hs, hunsupported.mpr hu⟩

theorem meets_node (hshape : d.shape = {}) {offers : List NodeOffer} :
    Topology.Meets [d.node] offers ↔
      d.minCount.toNat ≤ offers.countP fun offer => d.Suits offer := by
  have hfitting : d.node.fitting offers = offers.countP fun offer => d.Suits offer := by
    simp only [NodeShape.fitting, fits_node hshape]
  simp only [Topology.Meets, List.forall_mem_singleton, hfitting]
  simp [node, CountRange.Admits, CountRange.atLeast]

/-- A node of an unknown kind offers nothing, so it is of no supported kind, and of no unsupported
one either. -/
theorem offers_kind_iff (os? : Option Os) {supported unsupported : List Os} :
    ((supported ≠ [] → ∃ base ∈ (os?.map Os.ancestors).getD [], base ∈ supported) ∧
        ∀ base ∈ (os?.map Os.ancestors).getD [], base ∉ unsupported) ↔
      (supported ≠ [] → ∃ os, os? = some os ∧ ∃ base ∈ supported, os.isA base = true) ∧
        ∀ os, os? = some os → ∀ base ∈ unsupported, os.isA base = false := by
  cases os? with
  | none => simp
  | some os =>
    simp only [Option.map_some, Option.getD_some, Option.some.injEq, exists_eq_left', forall_eq',
      Os.isA, List.contains_iff_mem, ← Bool.not_eq_true]
    constructor
    · rintro ⟨hsupported, hunsupported⟩
      refine ⟨fun hne => ?_, fun base hbase hos => hunsupported base hos hbase⟩
      obtain ⟨base, hos, hbase⟩ := hsupported hne
      exact ⟨base, hbase, hos⟩
    · rintro ⟨hsupported, hunsupported⟩
      refine ⟨fun hne => ?_, fun base hos hbase => hunsupported base hbase hos⟩
      obtain ⟨base, hbase, hos⟩ := hsupported hne
      exact ⟨base, hos, hbase⟩

theorem fault?_eq_none_iff : d.fault? = none ↔
    ¬ (d.supportedPlatforms ≠ [] ∧ d.unsupportedPlatforms ≠ []) ∧
      ¬ (d.supportedOs ≠ [] ∧ d.unsupportedOs ≠ []) ∧
      ¬ (d.stage = .deployed ∧ (d.supportedOs ≠ [] ∨ d.unsupportedOs ≠ [])) := by
  rw [fault?]
  split
  · simp [*]
  · split
    · simp [*]
    · split <;> simp [*]

theorem metBy_requirement (hshape : d.shape = {}) (hfault : d.fault? = none) {e : Environment σ} :
    d.requirement.MetBy e ↔ d.MetBy e := by
  obtain ⟨hplatforms, hos, -⟩ := fault?_eq_none_iff.mp hfault
  have hplatform : (∀ rule, d.requirement.platform = some rule → rule.Accepts [e.platform]) ↔
      (d.supportedPlatforms ≠ [] → e.platform ∈ d.supportedPlatforms) ∧
        e.platform ∉ d.unsupportedPlatforms := by
    rw [requirement, SetRule.accepts_ofSides hplatforms]
    simp
  have hkind (node : Node σ) := (SetRule.accepts_ofSides hos).trans (offers_kind_iff node.os)
  constructor
  · rintro ⟨hdeleted, hstage, hnodes, hrule, hrules⟩
    simp only [Node.accepts_iff] at hrules
    obtain ⟨hsupported, hunsupported⟩ := hplatform.mp hrule
    refine ⟨hdeleted, hstage, (meets_node hshape).mp hnodes, hsupported, hunsupported, ?_, ?_⟩
    · intro hconnected node hnode
      exact ((hkind node).mp fun rule hsome => hrules rule hsome hconnected node hnode).1
    · intro hconnected node hnode
      exact ((hkind node).mp fun rule hsome => hrules rule hsome hconnected node hnode).2
  · rintro ⟨hdeleted, hstage, hnodes, hsupported, hunsupported, hos, hnot⟩
    refine ⟨hdeleted, hstage, (meets_node hshape).mpr hnodes,
      hplatform.mpr ⟨hsupported, hunsupported⟩, ?_⟩
    intro rule hsome hconnected node hnode
    rw [Node.accepts_iff]
    exact (hkind node).mpr ⟨hos hconnected node hnode, hnot hconnected node hnode⟩ rule hsome

end Demands

namespace Requirement

/-- Demands that start from no shape are refused for their first contradiction and for nothing else.
If there is none they are a requirement, and a record with this requirement answers, quickly as well
as thoroughly, whether an environment does all that was demanded last. -/
theorem ofDemands_means {demands : List Demand} (hshape : ∀ shape, Demand.shape shape ∉ demands) :
    let d := Demands.ofLast demands
    (∀ fault, ofDemands demands = .error fault ↔ d.fault? = some fault) ∧
      ((∃ r, ofDemands demands = .ok r) ↔ d.fault? = none) ∧
      ∀ r, ofDemands demands = .ok r →
        ∀ (σ : Type) (record : Record σ) (e : Environment σ) (thorough : Bool) (w : World σ),
          record.testCase.requirement = r → e.offers.length < UInt32.size →
            (((record.check e thorough).run w).value.1 = true ↔ d.MetBy e) := by
  intro d
  have hdefault : d.shape = {} := by
    change (Demand.last? Demand.shape? demands).getD {} = {}
    rw [Demand.last?_shape?_eq_none hshape]
    rfl
  have heq := Demands.ofDemands_eq demands
  cases hfault : d.fault? with
  | some fault =>
    rw [show (Demands.ofLast demands).fault? = some fault from hfault] at heq
    simp [heq]
  | none =>
    rw [show (Demands.ofLast demands).fault? = none from hfault] at heq
    refine ⟨by simp [heq], by simp [heq], fun r hr σ record e thorough w hrecord hoffers => ?_⟩
    obtain rfl : d.requirement = r := by simpa [heq] using hr
    have hanswer : ((record.check e thorough).run w).value.1 =
        (record.testCase.requirement.check e thorough).met := rfl
    rw [hanswer, hrecord, met_check_eq_thorough, met_check_thorough _ e hoffers,
      Demands.metBy_requirement hdefault hfault]

/-- Two nodes with a graphics card and with Linux, on any platform but one. -/
def twoLinux : List Demand :=
  [.supportedOs [.windows], .minCount 2, .supportedFeatures ["gpu", "gpu"], .supportedOs [.linux],
    .unsupportedPlatforms ["azure"]]

/-- Two connected nodes with a graphics card, one of them with an Ubuntu. -/
def besideUbuntu (os : Option Os) : Environment Unit where
  name := "local"
  stage := .connected
  nodes := [some .ubuntu, os].map fun os =>
    ⟨"node", os, { name := "node", features := .ofList ["gpu"] }, fun _ _ s =>
      ⟨.ok ⟨0, "", ""⟩, [], s⟩⟩

/-- A case that requires these nodes. -/
def onTwoLinux : Record Unit where
  id := "a.x"
  testCase := {
    suiteName := "a"
    name := "x"
    ownRequirement := some (Demands.ofLast twoLinux).requirement }

theorem ofDemands_means_twoLinux :
    ofDemands twoLinux = .ok onTwoLinux.testCase.requirement ∧
      (Demands.ofLast twoLinux).MetBy (besideUbuntu (some .suse)) ∧
      ¬ (Demands.ofLast twoLinux).MetBy (besideUbuntu none) := by
  have hshape (shape : NodeShape) : Demand.shape shape ∉ twoLinux := by simp [twoLinux]
  have hr : ofDemands twoLinux = .ok onTwoLinux.testCase.requirement := rfl
  obtain ⟨-, -, hmeans⟩ := ofDemands_means hshape
  have hanswer (os : Option Os) :
      ((onTwoLinux.check (besideUbuntu os) false).run ⟨(), 0⟩).value.1 = true ↔
        (Demands.ofLast twoLinux).MetBy (besideUbuntu os) := by
    have hoffers : (besideUbuntu os).offers.length < UInt32.size := by
      change 2 < UInt32.size
      decide
    exact hmeans _ hr Unit onTwoLinux (besideUbuntu os) false ⟨(), 0⟩ rfl hoffers
  exact ⟨hr, (hanswer _).mp (by decide), mt (hanswer _).mpr (by decide)⟩

end Requirement

end Testbed
