import Testbed.Proofs.Requirement.Match

/-! # Reasons for what is not met

A check gives reasons just when it is not met. The reasons of a requirement are
not empty texts, so an environment that is turned down is always explained.
-/

namespace Testbed

namespace Finding

/-- There are reasons just when the finding is not met. -/
def Explained (f : Finding) : Prop :=
  f.met = true ↔ f.reasons = []

theorem explained_ok : ok.Explained := by
  simp [Explained, ok]

theorem explained_failed (reason : String) : (failed reason).Explained := by
  simp [Explained, failed, add, ok]

theorem Explained.merge {f part : Finding} (hf : f.Explained) (hpart : part.Explained)
    (label : String) : (f.merge part label).Explained := by
  rw [Explained] at hf hpart
  rw [Explained, met_merge, reasons_merge, Bool.and_eq_true, List.append_eq_nil_iff,
    List.map_eq_nil_iff, hf, hpart]

theorem explained_foldl_merge {α : Type} (part : α → Finding) (label : α → String) {xs : List α}
    (hpart : ∀ x ∈ xs, (part x).Explained) {f : Finding} (hf : f.Explained) :
    (xs.foldl (fun f x => f.merge (part x) (label x)) f).Explained := by
  induction xs generalizing f with
  | nil => exact hf
  | cons x xs ih =>
    obtain ⟨hx, hxs⟩ := List.forall_mem_cons.mp hpart
    exact ih hxs (hf.merge hx _)

theorem labelled_ne_empty {label : String} (hlabel : label ≠ "") (reason : String) :
    labelled label reason ≠ "" := by
  have hne : label.isEmpty = false := by simpa using hlabel
  simp [labelled, hne, toString]

/-- The finding is explained, and by texts that say something. -/
structure WellExplained (f : Finding) : Prop where
  explained : f.Explained
  not_empty : ∀ reason ∈ f.reasons, reason ≠ ""

theorem WellExplained.merge {f part : Finding} (hf : f.WellExplained) (hpart : part.Explained)
    {label : String} (hlabel : label ≠ "") : (f.merge part label).WellExplained where
  explained := hf.explained.merge hpart label
  not_empty := by
    intro reason hreason
    rw [reasons_merge, List.mem_append, List.mem_map] at hreason
    rcases hreason with hreason | ⟨reason, -, rfl⟩
    · exact hf.not_empty reason hreason
    · exact labelled_ne_empty hlabel reason

theorem WellExplained.stage {f part : Finding} (hf : f.WellExplained) (hpart : part.Explained)
    {label : String} (hlabel : label ≠ "") (looked : Bool) :
    (if looked then f.merge part label else f).WellExplained := by
  split
  · exact hf.merge hpart hlabel
  · exact hf

end Finding

open Finding

theorem CountRange.explained_check (range : CountRange) (n : UInt32) :
    (range.check n).Explained := by
  rw [CountRange.check]
  split
  · exact explained_ok
  · exact explained_failed _

namespace SetRule

variable {α : Type} [Ord α] [ToString α]

omit [Ord α] in
theorem explained_blame (reason : String) (items : List α) : (blame reason items).Explained := by
  cases items with
  | nil => exact explained_ok
  | cons => exact explained_failed _

theorem explained_check [Std.TransOrd α] (rule : SetRule α) (offered : List α) :
    (rule.check offered).Explained := by
  rw [check]
  split
  · exact explained_ok
  · cases rule.mode with
    | noItem => exact explained_blame ..
    | everyItem => exact explained_blame ..
    | someItem =>
      dsimp only
      split
      · exact explained_ok
      · exact explained_failed _

end SetRule

namespace NodeShape

theorem explained_checkFeatures (rule : Option (SetRule String)) (offer : NodeOffer) :
    (checkFeatures rule offer).Explained := by
  cases rule with
  | none => exact explained_ok
  | some rule => exact rule.explained_check _

theorem explained_check (shape : NodeShape) (offer : NodeOffer) : (shape.check offer).Explained :=
  ((explained_ok.merge (shape.nics.explained_check _) _).merge
    (explained_checkFeatures ..) _).merge (explained_checkFeatures ..) _

theorem explained_foldl_tallyStep (shape : NodeShape) (offers : List NodeOffer)
    {counted : UInt32 × Finding} (h : counted.2.Explained) :
    (offers.foldl shape.tallyStep counted).2.Explained := by
  induction offers generalizing counted with
  | nil => exact h
  | cons offer offers ih =>
    refine ih ?_
    rw [tallyStep]
    split
    · exact h
    · exact h.merge (shape.explained_check offer) _

theorem explained_checkCount (position : Nat) (shape : NodeShape) (offers : List NodeOffer) :
    (shape.checkCount position offers).Explained := by
  have htally : (shape.tally offers).2.Explained := by
    rw [tally_eq]
    exact shape.explained_foldl_tallyStep offers explained_ok
  simp only [checkCount]
  split
  · exact explained_ok
  · exact (explained_ok.merge (shape.count.explained_check _) _).merge htally _

end NodeShape

theorem Topology.explained_check (shapes : List NodeShape) (offers : List NodeOffer) :
    (check shapes offers).Explained :=
  explained_foldl_merge (fun shape : NodeShape × Nat => shape.1.checkCount shape.2 offers)
    (fun _ => "") (fun shape _ => shape.1.explained_checkCount ..) explained_ok

namespace Requirement

variable {σ : Type} (r : Requirement) (e : Environment σ)

theorem wellExplained_checkStage : (r.checkStage e).WellExplained := by
  rw [checkStage]
  split
  · exact ⟨explained_ok, by simp [ok]⟩
  · exact ⟨explained_failed _, by simp [failed, add, ok, toString]⟩

theorem explained_checkPlatform : (r.checkPlatform e).Explained := by
  rw [checkPlatform]
  cases r.platform with
  | none => exact explained_ok
  | some rule => exact rule.explained_check _

theorem wellExplained_checkOs (rule : SetRule Os) (thorough : Bool) {finding : Finding}
    (h : finding.WellExplained) (nodes : List (Node σ)) :
    (checkOs rule thorough finding nodes).WellExplained := by
  induction nodes generalizing finding with
  | nil => exact h
  | cons node nodes ih =>
    have hmerge : (finding.merge (checkNodeOs rule node) "os_type").WellExplained :=
      h.merge (rule.explained_check _) (by decide)
    rw [checkOs]
    split
    · exact ih hmerge
    · exact hmerge

theorem wellExplained_checkOffer (thorough : Bool) : (r.checkOffer e thorough).WellExplained :=
  ((r.wellExplained_checkStage e).stage (Topology.explained_check ..) (by decide) _).stage
    (r.explained_checkPlatform e) (by decide) _

theorem wellExplained_lookAtOs (thorough : Bool) {finding : Finding} (h : finding.WellExplained) :
    (r.lookAtOs e thorough finding).WellExplained := by
  rw [lookAtOs]
  split
  · split
    · exact wellExplained_checkOs _ thorough h e.nodes
    · exact h
  · exact h

/-- An environment is turned down for reasons that say something. -/
theorem wellExplained_check (thorough : Bool) : (r.check e thorough).WellExplained := by
  rw [check_eq]
  split
  · exact r.wellExplained_lookAtOs e thorough (r.wellExplained_checkOffer e thorough)
  · exact r.wellExplained_checkOffer e thorough

end Requirement

end Testbed
