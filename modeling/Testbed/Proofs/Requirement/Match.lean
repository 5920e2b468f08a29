import Testbed.Proofs.Requirement.Acceptance
import Testbed.Record.Basic

/-! # Quick and thorough checks

A check that ends at the first mismatch answers as one that goes on to the end,
and both answer as a plain predicate does. Its reasons are the first ones of
the thorough check.
-/

namespace Testbed

variable {σ : Type}

/-- One finding is the other one, cut off at some point from which on it is not met. -/
structure Finding.CutOf (short long : Finding) : Prop where
  met : short.met = long.met
  reasons : short.reasons <+: long.reasons
  eq_of_met : short.met = true → short = long

namespace Finding.CutOf

theorem refl (f : Finding) : CutOf f f where
  met := rfl
  reasons := List.prefix_rfl
  eq_of_met _ := rfl

theorem merge {short long : Finding} (h : CutOf short long) (hmet : short.met = false)
    (part : Finding) (label : String) : CutOf short (long.merge part label) where
  met := by rw [met_merge, ← h.met, hmet, Bool.false_and]
  reasons := h.reasons.trans (List.prefix_append ..)
  eq_of_met h' := absurd h' (by simp [hmet])

theorem stage {short long : Finding} (h : CutOf short long) (part : Finding) (label : String) :
    CutOf (if short.met then short.merge part label else short) (long.merge part label) := by
  cases hmet : short.met with
  | true =>
    rw [if_pos rfl, h.eq_of_met hmet]
    exact refl _
  | false =>
    rw [if_neg Bool.false_ne_true]
    exact h.merge hmet part label

end Finding.CutOf

namespace Os

/-- The kinds from one up to the root, each followed by the kind right above it. -/
inductive Lineage : Os → List Os → Prop where
  | root {os : Os} : os.parent? = none → Lineage os [os]
  | step {os above : Os} {kinds : List Os} :
      os.parent? = some above → Lineage above kinds → Lineage os (os :: kinds)

theorem ancestors_of_root {os : Os} (h : os.parent? = none) : os.ancestors = [os] := by
  revert h
  cases os <;> decide

theorem ctorIdx_lt_of_parent {os above : Os} (h : os.parent? = some above) :
    above.ctorIdx < os.ctorIdx := by
  revert h
  cases os <;> cases above <;> decide

theorem lineage_ancestors (os : Os) : os.Lineage os.ancestors := by
  cases h : os.parent? with
  | none =>
    rw [ancestors_of_root h]
    exact .root h
  | some above =>
    rw [ancestors_of_parent h]
    exact .step h (lineage_ancestors above)
termination_by os.ctorIdx
decreasing_by exact ctorIdx_lt_of_parent h

theorem lineage_iff {os : Os} {kinds : List Os} : os.Lineage kinds ↔ kinds = os.ancestors := by
  constructor
  · intro h
    induction h with
    | root hroot => exact (ancestors_of_root hroot).symm
    | step habove _ ih => rw [ih, ancestors_of_parent habove]
  · rintro rfl
    exact lineage_ancestors os

end Os

/-- The kinds that a node stands for: the lineage of its own kind, and none if that is unknown. -/
inductive Node.StandsFor (node : Node σ) : List Os → Prop where
  | unknown : node.os = none → StandsFor node []
  | known {os : Os} {kinds : List Os} :
      node.os = some os → os.Lineage kinds → StandsFor node kinds

theorem Node.standsFor_iff {node : Node σ} {kinds : List Os} :
    node.StandsFor kinds ↔ kinds = (node.os.map Os.ancestors).getD [] := by
  constructor
  · rintro (hnone | ⟨hos, hkinds⟩)
    · rw [hnone]
      rfl
    · rw [hos, Os.lineage_iff.mp hkinds]
      rfl
  · rintro rfl
    cases hos : node.os with
    | none => exact .unknown hos
    | some os => exact .known hos os.lineage_ancestors

theorem Node.accepts_iff {node : Node σ} {rule : SetRule Os} :
    (∃ kinds, node.StandsFor kinds ∧ rule.Accepts kinds) ↔
      rule.Accepts ((node.os.map Os.ancestors).getD []) := by
  simp only [standsFor_iff, exists_eq_left]

namespace Requirement

/-- The environment is neither deleted nor at too early a stage, and its nodes and its platform are
accepted; so are the kinds of operating systems that each node stands for, if there is a rule for
them and the environment is connected. -/
structure MetBy (r : Requirement) (e : Environment σ) : Prop where
  not_deleted : e.stage ≠ .deleted
  stage : r.stage.ctorIdx ≤ e.stage.ctorIdx
  nodes : Topology.Meets r.nodes e.offers
  platform : ∀ rule, r.platform = some rule → rule.Accepts [e.platform]
  os : ∀ rule, r.os = some rule → e.stage = .connected →
    ∀ node ∈ e.nodes, ∃ kinds, node.StandsFor kinds ∧ rule.Accepts kinds

variable (r : Requirement) (e : Environment σ)

theorem met_checkStage :
    (r.checkStage e).met = true ↔ e.stage ≠ .deleted ∧ r.stage.ctorIdx ≤ e.stage.ctorIdx := by
  rw [checkStage]
  split <;> simp_all [Stage.satisfies]

theorem met_checkPlatform :
    (r.checkPlatform e).met = true ↔
      ∀ rule, r.platform = some rule → rule.Accepts [e.platform] := by
  rw [checkPlatform]
  cases r.platform with
  | none => simp
  | some rule => simp [SetRule.met_check]

theorem met_checkOs (rule : SetRule Os) (finding : Finding) (nodes : List (Node σ)) :
    (checkOs rule true finding nodes).met = true ↔
      finding.met = true ∧
        ∀ node ∈ nodes, rule.Accepts ((node.os.map Os.ancestors).getD []) := by
  induction nodes generalizing finding with
  | nil => simp [checkOs]
  | cons node nodes ih =>
    simp [checkOs, ih, checkNodeOs, SetRule.met_check, and_assoc]

theorem cutOf_checkOs_of_not_met (rule : SetRule Os) {short long : Finding}
    (h : short.CutOf long) (hmet : short.met = false) (nodes : List (Node σ)) :
    short.CutOf (checkOs rule true long nodes) := by
  induction nodes generalizing long with
  | nil => exact h
  | cons node nodes ih =>
    simp only [checkOs, Bool.or_true, if_true]
    exact ih (h.merge hmet ..)

theorem cutOf_checkOs (rule : SetRule Os) {finding : Finding} (hmet : finding.met = true)
    (nodes : List (Node σ)) :
    (checkOs rule false finding nodes).CutOf (checkOs rule true finding nodes) := by
  induction nodes generalizing finding with
  | nil => exact .refl finding
  | cons node nodes ih =>
    simp only [checkOs, Bool.or_true, Bool.or_false, if_true]
    cases hpart : (checkNodeOs rule node).met with
    | true =>
      rw [if_pos rfl]
      exact ih (by simp [hmet, hpart])
    | false =>
      rw [if_neg Bool.false_ne_true]
      exact cutOf_checkOs_of_not_met rule (.refl _) (by simp [hpart]) nodes

/-- What looking at the operating systems makes of a finding. -/
def lookAtOs (thorough : Bool) (finding : Finding) : Finding :=
  match r.os with
  | some rule => if e.stage = .connected then checkOs rule thorough finding e.nodes else finding
  | none => finding

theorem met_lookAtOs (finding : Finding) :
    (r.lookAtOs e true finding).met = true ↔ finding.met = true ∧
      ∀ rule, r.os = some rule → e.stage = .connected →
        ∀ node ∈ e.nodes, rule.Accepts ((node.os.map Os.ancestors).getD []) := by
  rw [lookAtOs]
  cases r.os with
  | none => simp
  | some rule => by_cases hconnected : e.stage = .connected <;> simp [met_checkOs, hconnected]

theorem cutOf_lookAtOs {finding : Finding} (hmet : finding.met = true) :
    (r.lookAtOs e false finding).CutOf (r.lookAtOs e true finding) := by
  rw [lookAtOs, lookAtOs]
  split
  · split
    · exact cutOf_checkOs _ hmet e.nodes
    · exact .refl finding
  · exact .refl finding

theorem cutOf_lookAtOs_of_not_met {short long : Finding} (h : short.CutOf long)
    (hmet : short.met = false) : short.CutOf (r.lookAtOs e true long) := by
  rw [lookAtOs]
  split
  · split
    · exact cutOf_checkOs_of_not_met _ h hmet e.nodes
    · exact h
  · exact h

/-- What a check has found before it looks at operating systems. -/
def checkOffer (thorough : Bool) : Finding :=
  let finding := r.checkStage e
  let finding :=
    if finding.met || thorough then finding.merge (Topology.check r.nodes e.offers) "environment"
    else finding
  if finding.met || thorough then finding.merge (r.checkPlatform e) "platform_type" else finding

theorem check_eq (thorough : Bool) :
    r.check e thorough =
      if (r.checkOffer e thorough).met || thorough then
        r.lookAtOs e thorough (r.checkOffer e thorough)
      else r.checkOffer e thorough := rfl

theorem met_checkOffer (hoffers : e.offers.length < UInt32.size) :
    (r.checkOffer e true).met = true ↔
      (e.stage ≠ .deleted ∧ r.stage.ctorIdx ≤ e.stage.ctorIdx) ∧
        Topology.Meets r.nodes e.offers ∧
        ∀ rule, r.platform = some rule → rule.Accepts [e.platform] := by
  simp only [checkOffer, Bool.or_true, if_true, Finding.met_merge, Bool.and_eq_true,
    met_checkStage, met_checkPlatform, Topology.met_check _ hoffers, and_assoc]

theorem cutOf_checkOffer : (r.checkOffer e false).CutOf (r.checkOffer e true) := by
  simp only [checkOffer, Bool.or_false, Bool.or_true, if_true]
  exact ((Finding.CutOf.refl _).stage _ _).stage _ _

/-- A thorough check is met just when the environment meets the requirement. -/
theorem met_check_thorough (hoffers : e.offers.length < UInt32.size) :
    (r.check e true).met = true ↔ r.MetBy e := by
  rw [check_eq, Bool.or_true, if_pos rfl, met_lookAtOs, r.met_checkOffer e hoffers]
  simp only [← Node.accepts_iff]
  constructor
  · rintro ⟨⟨⟨hdeleted, hstage⟩, hnodes, hplatform⟩, hos⟩
    exact ⟨hdeleted, hstage, hnodes, hplatform, hos⟩
  · rintro ⟨hdeleted, hstage, hnodes, hplatform, hos⟩
    exact ⟨⟨⟨hdeleted, hstage⟩, hnodes, hplatform⟩, hos⟩

/-- A quick check finds what a thorough one does, cut off. -/
theorem cutOf_check : (r.check e false).CutOf (r.check e true) := by
  have hoffer := r.cutOf_checkOffer e
  rw [check_eq, check_eq, Bool.or_true, if_pos rfl, Bool.or_false]
  cases hmet : (r.checkOffer e false).met with
  | true =>
    rw [if_pos rfl, ← hoffer.eq_of_met hmet]
    exact r.cutOf_lookAtOs e hmet
  | false =>
    rw [if_neg Bool.false_ne_true]
    exact r.cutOf_lookAtOs_of_not_met e hoffer hmet

end Requirement

namespace Record

/-- A record gives the same answer to a quick and to a thorough check, and it is that of the plain
predicate. Only a thorough check changes the record, and only what it has found. -/
theorem check_agrees (r : Record σ) (e : Environment σ) (hoffers : e.offers.length < UInt32.size)
    (w : World σ) :
    let requirement := r.testCase.requirement
    let quick := (r.check e false).run w
    let thorough := (r.check e true).run w
    quick.value.1 = thorough.value.1 ∧
      (quick.value.1 = true ↔ requirement.MetBy e) ∧
      (requirement.check e false).reasons <+: (requirement.check e true).reasons ∧
      quick.value.2 = r ∧
      thorough.value.2 = { r with finding := thorough.value.2.finding } ∧
      quick.journal.messages = [] ∧ thorough.journal.messages = [] ∧
      quick.world = w ∧ thorough.world = w := by
  intro requirement quick thorough
  have hcut := requirement.cutOf_check e
  refine ⟨hcut.met, ?_, hcut.reasons, rfl, rfl, rfl, rfl, rfl, rfl⟩
  rw [← requirement.met_check_thorough e hoffers, ← hcut.met]
  rfl

/-- Connected nodes, each of a known or of an unknown kind. -/
def ofKinds (kinds : List (Option Os)) : Environment Unit where
  name := "local"
  stage := .connected
  nodes := kinds.map fun os =>
    ⟨"node", os, { name := "node" }, fun _ _ s => ⟨.ok ⟨0, "", ""⟩, [], s⟩⟩

/-- An Ubuntu is a Linux, and nothing is known of the second node of the other environment. -/
theorem check_agrees_halfSeen :
    let requirement : Requirement := ⟨[{}], .connected, none, some (.requireAny [.linux])⟩
    let c : Case Unit := { suiteName := "a", name := "x", ownRequirement := requirement }
    let r : Record Unit := { id := "a.x", testCase := c }
    let answer (e : Environment Unit) (thorough : Bool) :=
      ((r.check e thorough).run ⟨(), 0⟩).value.1
    let seen := ofKinds [some .ubuntu]
    let halfSeen := ofKinds [some .ubuntu, none]
    Os.Lineage .ubuntu [.ubuntu, .debian, .linux, .posix, .operatingSystem] ∧
      answer seen false = true ∧ answer seen true = true ∧ requirement.MetBy seen ∧
      answer halfSeen false = false ∧ answer halfSeen true = false ∧
      ¬ requirement.MetBy halfSeen := by
  intro requirement c r answer seen halfSeen
  obtain ⟨hsame, hmet, -⟩ := check_agrees r seen (by decide) ⟨(), 0⟩
  obtain ⟨hsame', hmet', -⟩ := check_agrees r halfSeen (by decide) ⟨(), 0⟩
  have hseen : answer seen false = true := by decide
  have hhalfSeen : answer halfSeen false = false := by decide
  exact ⟨Os.lineage_iff.mpr rfl, hseen, hsame.symm.trans hseen, hmet.mp hseen, hhalfSeen,
    hsame'.symm.trans hhalfSeen, fun h => absurd (hmet'.mpr h) (by decide)⟩

end Record

end Testbed
