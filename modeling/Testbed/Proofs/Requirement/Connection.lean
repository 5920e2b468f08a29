import Testbed.Proofs.Requirement.Match
import Testbed.Requirement.Demand
import Testbed.Run.Basic

/-! # Requirements that look at operating systems

Operating systems are compared on a connected environment only. A requirement
with a rule for them cannot ask for a deployed environment, so one that asks for
a connected environment has its rule compared whenever it is met. One that asks
for less is met by a deployed environment on which nothing is compared.
-/

namespace Testbed

variable {σ : Type}

namespace Requirement

/-- The requirements that are accepted, given in full or by demands. -/
inductive Accepted (r : Requirement) : Prop where
  | full {nodes : List NodeShape} {stage : Stage} {platform : Option (SetRule String)}
      {os : Option (SetRule Os)} : make nodes stage platform os = .ok r → Accepted r
  | demanded {demands : List Demand} : ofDemands demands = .ok r → Accepted r

/-- The rule accepts each node of the environment whose operating system is known. -/
def OsMet (rule : SetRule Os) (e : Environment σ) : Prop :=
  ∀ node ∈ e.nodes, ∀ os, node.os = some os → rule.Accepts os.ancestors

theorem not_deployed_of_make {r : Requirement} {nodes : List NodeShape} {stage : Stage}
    {platform : Option (SetRule String)} {os : Option (SetRule Os)}
    (h : make nodes stage platform os = .ok r) (hos : r.os.isSome) : r.stage ≠ .deployed := by
  rw [make] at h
  split at h
  · cases h
  · rename_i hallowed
    cases h
    exact fun hstage => hallowed ⟨hstage, hos⟩

theorem exists_make_of_demands {r : Requirement} {demands : List Demand}
    (h : ofDemands demands = .ok r) :
    ∃ nodes stage platform os, make nodes stage platform os = .ok r := by
  rw [ofDemands] at h
  split at h
  · cases h
  · split at h
    · cases h
    · exact ⟨_, _, _, _, h⟩

theorem Accepted.not_deployed {r : Requirement} (h : r.Accepted) (hos : r.os.isSome) :
    r.stage ≠ .deployed := by
  cases h with
  | full hmake => exact not_deployed_of_make hmake hos
  | demanded hdemands =>
    obtain ⟨_, _, _, _, hmake⟩ := exists_make_of_demands hdemands
    exact not_deployed_of_make hmake hos

variable {r : Requirement} {e : Environment σ} {rule : SetRule Os}

theorem met_check_eq_thorough (thorough : Bool) :
    (r.check e thorough).met = (r.check e true).met := by
  cases thorough with
  | false => exact (r.cutOf_check e).met
  | true => rfl

/-- A requirement that is met has found the stage right and, on a connected environment, each
operating system. -/
theorem stage_and_os_of_met {thorough : Bool} (hmet : (r.check e thorough).met = true) :
    e.stage.satisfies r.stage = true ∧
      ∀ rule, r.os = some rule → e.stage = .connected →
        ∀ node ∈ e.nodes, rule.Accepts ((node.os.map Os.ancestors).getD []) := by
  rw [met_check_eq_thorough, check_eq, Bool.or_true, if_pos rfl, met_lookAtOs] at hmet
  obtain ⟨hoffer, hos⟩ := hmet
  simp only [checkOffer, Bool.or_true, if_true, Finding.met_merge, Bool.and_eq_true] at hoffer
  obtain ⟨⟨hstage, -⟩, -⟩ := hoffer
  rw [met_checkStage] at hstage
  exact ⟨by simpa [Stage.satisfies] using hstage, hos⟩

theorem connected_of_satisfies {stage required : Stage} (h : stage.satisfies required = true)
    (hnew : required ≠ .new) (hprepared : required ≠ .prepared) (hdeployed : required ≠ .deployed) :
    stage = .connected := by
  cases stage <;> cases required <;> first | rfl | contradiction

/-- On an environment that is not connected a rule for operating systems changes nothing. -/
theorem check_of_not_connected (hconnected : e.stage ≠ .connected) (thorough : Bool) :
    r.check e thorough = { r with os := none }.check e thorough := by
  have hlook (finding : Finding) : r.lookAtOs e thorough finding = finding := by
    rw [lookAtOs]
    split
    · exact if_neg hconnected
    · rfl
  rw [check_eq, hlook]
  rfl

theorem osMet_of_met (haccepted : r.Accepted) (hos : r.os = some rule)
    (hstage : r.stage = .new ∨ r.stage = .prepared → e.stage = .connected) {thorough : Bool}
    (hmet : (r.check e thorough).met = true) : OsMet rule e := by
  obtain ⟨hsatisfies, hrule⟩ := stage_and_os_of_met hmet
  have hdeployed : r.stage ≠ .deployed := haccepted.not_deployed (by simp [hos])
  have hconnected : e.stage = .connected := by
    by_cases hearly : r.stage = .new ∨ r.stage = .prepared
    · exact hstage hearly
    · obtain ⟨hnew, hprepared⟩ := not_or.mp hearly
      exact connected_of_satisfies hsatisfies hnew hprepared hdeployed
  intro node hnode os hknown
  have haccepts := hrule rule hos hconnected node hnode
  rwa [hknown] at haccepts

end Requirement

namespace Record

open Requirement

theorem met_of_canRun_gate {record : Record σ} {e : Environment σ} {w : World σ}
    (h : ((Run.gate e record).run w).value.canRun = true) :
    (record.testCase.requirement.check e true).met = true := by
  cases hmet : (record.testCase.requirement.check e true).met with
  | true => rfl
  | false =>
    have hskipped : ((Run.gate e record).run w).value.status = .skipped := by
      simp only [Run.gate, Record.check, Task.run_bind, Task.run_log, Task.run_pure, Record.bind,
        hmet]
      rfl
    rw [canRun, hskipped] at h
    cases h

/-- A rule for operating systems holds for every known one in an environment that is found to meet
an accepted requirement, and no record is run where it does not hold. This needs a connected
environment if the requirement asks for less than a deployed one: on any other environment the
answer is the one without the rule. -/
theorem check_sees_os {r : Requirement} (haccepted : r.Accepted) {rule : SetRule Os}
    (hos : r.os = some rule) (e : Environment σ) (record : Record σ)
    (hrecord : record.testCase.requirement = r) (w : World σ) :
    let answer (thorough : Bool) := ((record.check e thorough).run w).value.1
    ((r.stage = .new ∨ r.stage = .prepared → e.stage = .connected) →
      (∀ thorough, answer thorough = true → OsMet rule e) ∧
      (((Run.gate e record).run w).value.canRun = true → OsMet rule e)) ∧
    (e.stage ≠ .connected →
      ∀ thorough, answer thorough = ({ r with os := none }.check e thorough).met) := by
  subst hrecord
  intro answer
  constructor
  · intro hstage
    constructor
    · intro thorough hmet
      exact osMet_of_met haccepted hos hstage hmet
    · intro hrun
      exact osMet_of_met haccepted hos hstage (met_of_canRun_gate hrun)
  · intro hconnected thorough
    exact congrArg Finding.met (check_of_not_connected hconnected thorough)

/-- An environment of one node with a known operating system. -/
def single (stage : Stage) (os : Os) : Environment Unit where
  name := "local"
  stage
  nodes := [⟨"node", some os, { name := "node" }, fun _ _ s => ⟨.ok ⟨0, "", ""⟩, [], s⟩⟩]

/-- A case for Windows that is content with a stage. -/
def forWindows (stage : Stage) : Record Unit where
  id := "a.x"
  testCase := {
    suiteName := "a"
    name := "x"
    ownRequirement := some ⟨[{}], stage, none, some (.requireAny [.windows])⟩ }

theorem accepted_forWindows : (forWindows .prepared).testCase.requirement.Accepted := by
  have hdemands : ofDemands [.stage .prepared, .supportedOs [.windows]] =
      .ok (forWindows .prepared).testCase.requirement := rfl
  exact .demanded hdemands

theorem check_sees_os_connected :
    let rule : SetRule Os := .requireAny [.windows]
    let e := single .connected .windows
    let answer := (((forWindows .prepared).check e true).run ⟨(), 0⟩).value.1
    answer = true ∧ OsMet rule e := by
  intro rule e answer
  have hmet : answer = true := by decide
  obtain ⟨hsees, -⟩ := check_sees_os accepted_forWindows rfl e (forWindows .prepared) rfl ⟨(), 0⟩
  exact ⟨hmet, (hsees fun _ => rfl).1 true hmet⟩

/-- A prepared environment is asked for, so a deployed one will do, and its Linux is overlooked. -/
theorem os_overlooked_when_deployed :
    ¬ ∀ (r : Requirement) (rule : SetRule Os), r.Accepted → r.os = some rule →
      ∀ (record : Record Unit) (e : Environment Unit) (w : World Unit),
        record.testCase.requirement = r →
          ∀ thorough, ((record.check e thorough).run w).value.1 = true → OsMet rule e := by
  intro hall
  have hmet := hall _ _ accepted_forWindows rfl (forWindows .prepared) (single .deployed .ubuntu)
    ⟨(), 0⟩ rfl false (by decide)
  exact absurd (hmet _ List.mem_cons_self .ubuntu rfl) (by decide)

end Record

end Testbed
