import Mathlib.Data.List.Forall2
import Mathlib.Logic.Function.Basic
import Testbed.Proofs.Record.History
import Testbed.Proofs.Requirement.Connection
import Testbed.Proofs.Requirement.Explanation

/-! # Findings made of findings

Findings are made step by step, each in a place of its own: one is started
afresh, is given a reason, or takes in the one of another place under a label.
However often this is done, a finding is not met just when it has reasons, and
it makes no difference in which order parts are put together.
-/

namespace Testbed

namespace Finding

inductive Step (ι : Type) where
  | ok (place : ι)
  | failed (place : ι) (reason : String)
  | add (place : ι) (reason : String)
  /-- Takes in the finding of another place, or a second time that of the same place. -/
  | merge (place part : ι) (label : String)

variable {ι : Type} [DecidableEq ι]

def perform (findings : ι → Finding) : Step ι → ι → Finding
  | .ok place => Function.update findings place .ok
  | .failed place reason => Function.update findings place (.failed reason)
  | .add place reason => Function.update findings place ((findings place).add reason)
  | .merge place part label =>
    Function.update findings place ((findings place).merge (findings part) label)

/-- What is in each place after some steps, if nothing was wrong anywhere at the start. -/
def history (steps : List (Step ι)) : ι → Finding :=
  steps.foldl perform fun _ => .ok

theorem explained_add (f : Finding) (reason : String) : (f.add reason).Explained := by
  simp [Explained, add]

theorem explained_update {findings : ι → Finding} (h : ∀ place, (findings place).Explained)
    {f : Finding} (hf : f.Explained) (changed place : ι) :
    (Function.update findings changed f place).Explained := by
  by_cases heq : place = changed
  · subst heq
    rwa [Function.update_self]
  · rw [Function.update_of_ne heq]
    exact h place

theorem explained_perform {findings : ι → Finding} (h : ∀ place, (findings place).Explained)
    (step : Step ι) : ∀ place, (perform findings step place).Explained := by
  cases step with
  | ok changed => exact explained_update h explained_ok changed
  | failed changed reason => exact explained_update h (explained_failed reason) changed
  | add changed reason => exact explained_update h (explained_add _ reason) changed
  | merge changed part label => exact explained_update h ((h changed).merge (h part) label) changed

theorem explained_foldl_perform {findings : ι → Finding}
    (h : ∀ place, (findings place).Explained) (steps : List (Step ι)) :
    ∀ place, (steps.foldl perform findings place).Explained := by
  induction steps generalizing findings with
  | nil => exact h
  | cons step steps ih => exact ih (explained_perform h step)

theorem explained_history (steps : List (Step ι)) (place : ι) :
    (history steps place).Explained :=
  explained_foldl_perform (fun _ => explained_ok) steps place

/-- The label of a part of a part. -/
def composed (outer inner : String) : String :=
  if outer = "" then inner else if inner = "" then outer else s!"{outer}: {inner}"

theorem labelled_labelled (outer inner reason : String) :
    labelled outer (labelled inner reason) = labelled (composed outer inner) reason := by
  by_cases houter : outer = ""
  · simp [composed, houter]
  · by_cases hinner : inner = ""
    · simp [composed, houter, hinner]
    · simp [composed, labelled, houter, hinner, toString, String.append_assoc]

theorem merge_merge (a b c : Finding) (outer inner : String) :
    a.merge (b.merge c inner) outer = (a.merge b outer).merge c (composed outer inner) := by
  simp [merge, Bool.and_assoc, labelled_labelled]

theorem suffix_labelled (label reason : String) :
    reason.toList <:+ (labelled label reason).toList := by
  rw [labelled]
  split
  · exact List.suffix_rfl
  · rw [String.toList_append]
    exact List.suffix_append ..

/-- All reasons of both are found in the merged finding, in the same order, with nothing changed
but what stands in front of them. -/
theorem reasons_kept (a b : Finding) (label : String) :
    List.Forall₂ (fun own told => own.toList <:+ told.toList) (a.reasons ++ b.reasons)
      (a.merge b label).reasons := by
  rw [reasons_merge]
  refine List.rel_append ?_ ?_
  · exact List.forall₂_same.mpr fun reason _ => List.suffix_rfl
  · exact List.forall₂_map_right_iff.mpr
      (List.forall₂_same.mpr fun reason _ => suffix_labelled label reason)

end Finding

namespace Record

variable {σ : Type} {r : Record σ}

theorem explained_withFinding (h : ∀ f ∈ r.finding, f.Explained) {found : Finding}
    (hfound : found.Explained) (environment : String) :
    ∀ f ∈ (r.withFinding found environment).finding, f.Explained := by
  intro f hf
  cases hfinding : r.finding with
  | none =>
    obtain rfl : found = f := by simpa [withFinding, hfinding] using hf
    exact hfound
  | some earlier =>
    obtain rfl : earlier.merge found environment = f := by
      simpa [withFinding, hfinding] using hf
    exact (h earlier hfinding).merge hfound environment

theorem explained_perform (h : ∀ f ∈ r.finding, f.Explained) (step : Step σ) (w : World σ) :
    ∀ f ∈ ((r.perform step).run w).value.finding, f.Explained := by
  cases step with
  | check e thorough =>
    -- A quick check is answered and not kept.
    cases thorough with
    | false => exact h
    | true =>
      exact explained_withFinding h (r.testCase.requirement.wellExplained_check e true).explained
        e.name
  | set | interrupt | fact | bind | wait => exact h

theorem explained_history (r : Record σ) (steps : List (Step σ)) (w : World σ) :
    ∀ f ∈ ((r.blank.history steps).run w).value.finding, f.Explained := by
  induction steps using List.reverseRecOn with
  | nil =>
    intro f hf
    cases hf
  | append_singleton past step ih =>
    rw [run_history_concat]
    exact explained_perform ih step _

end Record

namespace Finding

/-- A finding is not met just when it has reasons: after any steps on findings, for all that is
compared with a requirement, and for all that a record keeps of it. A part that is met adds nothing.
A part of a part comes out the same whether it is put into the part first or into the whole later,
then under both labels. No part makes up for what is not met, and no reason is lost on the way. -/
theorem explained_and_composed :
    (∀ (ι : Type) [DecidableEq ι] (steps : List (Step ι)) (place : ι),
        (history steps place).Explained) ∧
      ((∀ (range : CountRange) (n : UInt32), (range.check n).Explained) ∧
        (∀ (α : Type) [Ord α] [Std.TransOrd α] [ToString α] (rule : SetRule α) (offered : List α),
          (rule.check offered).Explained) ∧
        (∀ (shape : NodeShape) (offer : NodeOffer), (shape.check offer).Explained) ∧
        (∀ (shapes : List NodeShape) (offers : List NodeOffer),
          (Topology.check shapes offers).Explained) ∧
        (∀ (σ : Type) (r : Record σ) (steps : List (Record.Step σ)) (w : World σ),
          ∀ f ∈ ((r.blank.history steps).run w).value.finding, f.Explained)) ∧
      (∀ (f : Finding) (label : String), f.merge ok label = f) ∧
      (∀ (a b c : Finding) (outer inner : String),
        a.merge (b.merge c inner) outer = (a.merge b outer).merge c (composed outer inner)) ∧
      (∀ (a b : Finding) (label : String),
        ((a.merge b label).met = true ↔ a.met = true ∧ b.met = true) ∧
          a.reasons <+: (a.merge b label).reasons ∧
          List.Forall₂ (fun own told => own.toList <:+ told.toList) (a.reasons ++ b.reasons)
            (a.merge b label).reasons) := by
  refine ⟨fun _ _ => explained_history, ⟨CountRange.explained_check,
    fun _ _ _ _ => SetRule.explained_check, NodeShape.explained_check, Topology.explained_check,
    fun _ => Record.explained_history⟩, merge_ok, merge_merge, fun a b label => ⟨?_, ?_, ?_⟩⟩
  · rw [met_merge, Bool.and_eq_true]
  · exact List.prefix_append ..
  · exact reasons_kept a b label

/-- A reason is given to the finding on the left, which the one on the right takes in. -/
def handedOver : List (Step Bool) :=
  [.add false "no disk", .merge true false "node", .ok false]

/-- A case for Windows has looked at a Linux. -/
def turnedDown : List (Record.Step Unit) :=
  [.check (Record.single .connected .ubuntu) true, .set .skipped ""]

theorem explained_and_composed_handedOver :
    let kept :=
      (((Record.forWindows .connected).blank.history turnedDown).run ⟨(), 0⟩).value.finding
    history handedOver true = ⟨false, ["node: no disk"]⟩ ∧ (history handedOver true).Explained ∧
      ((SetRule.requireAny [Os.windows]).check Os.ubuntu.ancestors).Explained ∧
      ∃ f, kept = some f ∧ f.met = false ∧ f.Explained := by
  intro kept
  obtain ⟨hhistory, ⟨-, hrule, -, -, hkept⟩, -⟩ := explained_and_composed
  have hf : kept = some ⟨false, ["os_type: capability [operating-system, posix, linux, debian, " ++
      "ubuntu] matches none of [windows]"]⟩ := by decide
  exact ⟨by decide, hhistory Bool handedOver true, hrule Os _ _, _, hf, rfl,
    hkept Unit (Record.forWindows .connected) turnedDown ⟨(), 0⟩ _ hf⟩

end Finding

end Testbed
