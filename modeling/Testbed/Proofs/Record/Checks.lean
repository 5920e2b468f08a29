import Testbed.Proofs.Record.History
import Testbed.Proofs.Requirement.Connection

/-! # What a record keeps of checks

However often a record is checked, and whatever else is done to it, each answer
is that of its requirement for the one environment. The thorough checks add up
to one finding: it is met if all of them are, and tells the reasons of each,
from the second one on with the name of the environment.
-/

namespace Testbed

variable {σ : Type}

namespace Requirement

/-- The finding of thorough checks of some environments, made one after the other. The reasons of
the first one stand as they are, later ones behind the names of their environments. -/
def gathered (requirement : Requirement) : List (Environment σ) → Option Finding
  | [] => none
  | first :: later => some
    { met := (first :: later).all fun e => (requirement.check e true).met
      reasons := (requirement.check first true).reasons ++ later.flatMap fun e =>
        (requirement.check e true).reasons.map fun reason =>
          if e.name = "" then reason else s!"{e.name}: {reason}" }

variable {requirement : Requirement}

theorem gathered_eq_none {environments : List (Environment σ)} :
    requirement.gathered environments = none ↔ environments = [] := by
  cases environments with
  | nil => exact iff_of_true rfl rfl
  | cons => exact iff_of_false (Option.some_ne_none _) (List.cons_ne_nil _ _)

theorem gathered_concat (environments : List (Environment σ)) (e : Environment σ) :
    requirement.gathered (environments ++ [e]) =
      some (match requirement.gathered environments with
        | none => requirement.check e true
        | some earlier => earlier.merge (requirement.check e true) e.name) := by
  have hlabelled : Finding.labelled e.name =
      fun reason => if e.name = "" then reason else s!"{e.name}: {reason}" := by
    funext reason
    simp [Finding.labelled]
  cases environments with
  | nil => simp [gathered]
  | cons first later => simp [gathered, Finding.merge, hlabelled, Bool.and_assoc]

end Requirement

namespace Record

namespace Step

/-- The environment that the step checks thoroughly. -/
def inspected? : Step σ → Option (Environment σ)
  | .check e true => some e
  | _ => none

/-- The step is a check that ends at the first mismatch. -/
def isQuick : Step σ → Bool
  | .check _ thorough => !thorough
  | _ => false

end Step

open Step

/-- What a check answers after some steps. -/
def answer (r : Record σ) (past : List (Step σ)) (e : Environment σ) (thorough : Bool)
    (w : World σ) : Bool :=
  let before := (r.blank.history past).run w
  ((before.value.check e thorough).run before.world).value.1

theorem testCase_history (r : Record σ) (steps : List (Step σ)) (w : World σ) :
    ((r.blank.history steps).run w).value.testCase = r.testCase := by
  obtain ⟨told, -, hchronicle⟩ := chronicle_history r steps w
  exact hchronicle.after.testCase

theorem answer_eq (r : Record σ) (past : List (Step σ)) (e : Environment σ) (thorough : Bool)
    (w : World σ) : r.answer past e thorough w = (r.testCase.requirement.check e true).met := by
  change (((r.blank.history past).run w).value.testCase.requirement.check e thorough).met = _
  rw [testCase_history, Requirement.met_check_eq_thorough]

theorem finding_perform (r : Record σ) (step : Step σ) (w : World σ) :
    ((r.perform step).run w).value.finding =
      match step.inspected? with
      | none => r.finding
      | some e => some (match r.finding with
        | none => r.testCase.requirement.check e true
        | some earlier => earlier.merge (r.testCase.requirement.check e true) e.name) := by
  cases step with
  | check e thorough => cases thorough <;> rfl
  | set | interrupt | fact | bind | wait => rfl

theorem finding_history (r : Record σ) (steps : List (Step σ)) (w : World σ) :
    ((r.blank.history steps).run w).value.finding =
      r.testCase.requirement.gathered (steps.filterMap inspected?) := by
  induction steps using List.reverseRecOn with
  | nil => rfl
  | append_singleton past step ih =>
    rw [run_history_concat, finding_perform, List.filterMap_append]
    cases hstep : step.inspected? with
    | none => simpa [hstep] using ih
    | some e =>
      have hfilter : [step].filterMap inspected? = [e] := by simp [hstep]
      rw [hfilter, Requirement.gathered_concat, ← ih, testCase_history]

/-- A quick check leaves the record and the world as they are. -/
theorem perform_of_isQuick {step : Step σ} (h : step.isQuick = true) (r : Record σ) (w : World σ) :
    ((r.perform step).run w).value = r ∧ ((r.perform step).run w).world = w := by
  cases step with
  | check e thorough =>
    cases thorough with
    | false => exact ⟨rfl, rfl⟩
    | true => cases h
  | set | interrupt | fact | bind | wait => cases h

theorem run_history_filter (r : Record σ) (steps : List (Step σ)) (w : World σ) :
    let run := (r.blank.history steps).run w
    let short := (r.blank.history (steps.filter fun step => !step.isQuick)).run w
    short.value = run.value ∧ short.world = run.world := by
  induction steps using List.reverseRecOn with
  | nil => exact ⟨rfl, rfl⟩
  | append_singleton past step ih =>
    obtain ⟨hvalue, hworld⟩ := ih
    rw [run_history_concat, List.filter_append]
    cases hquick : step.isQuick with
    | true =>
      obtain ⟨hsame, hstill⟩ := perform_of_isQuick hquick ((r.blank.history past).run w).value
        ((r.blank.history past).run w).world
      simp [hquick, hvalue, hworld, hsame, hstill]
    | false =>
      have hfilter : [step].filter (fun step => !step.isQuick) = [step] := by simp [hquick]
      rw [hfilter, run_history_concat, hvalue, hworld]
      exact ⟨rfl, rfl⟩

/-- Whatever has been done to a record before, a check answers what its requirement says of the
environment. What the record keeps is gathered from the environments that were checked thoroughly,
and is nothing only if there was none. Quick checks could as well have been left out. -/
theorem history_gathers (r : Record σ) (w : World σ) :
    let requirement := r.testCase.requirement
    (∀ past e thorough, r.answer past e thorough w = (requirement.check e true).met) ∧
      ∀ steps,
        let run := (r.blank.history steps).run w
        (run.value.finding = none ↔ ∀ step ∈ steps, step.inspected? = none) ∧
          run.value.finding = requirement.gathered (steps.filterMap inspected?) ∧
          ((r.blank.history (steps.filter fun step => !step.isQuick)).run w).value =
            run.value := by
  intro requirement
  refine ⟨fun past e thorough => r.answer_eq past e thorough w, fun steps => ⟨?_, ?_, ?_⟩⟩
  · rw [finding_history, Requirement.gathered_eq_none, List.filterMap_eq_nil_iff]
  · exact finding_history r steps w
  · exact (run_history_filter r steps w).1

end Record

end Testbed
