import Mathlib.Data.List.Induction
import Testbed.Requirement.Demand

/-! # What demands leave of a shape

Of each kind of demand the last one counts. Demanded features replace those of
the shape that the nodes start from, and features that are not demanded stay.
Counts never stay: one that is not demanded is at least one.
-/

namespace Testbed

namespace Demand

def shape? : Demand → Option NodeShape
  | .shape given => some given
  | _ => none

def minCount? : Demand → Option UInt32
  | .minCount n => some n
  | _ => none

def minNics? : Demand → Option UInt32
  | .minNics n => some n
  | _ => none

def stage? : Demand → Option Stage
  | .stage asked => some asked
  | _ => none

def supportedPlatforms? : Demand → Option (List String)
  | .supportedPlatforms names => some names
  | _ => none

def unsupportedPlatforms? : Demand → Option (List String)
  | .unsupportedPlatforms names => some names
  | _ => none

def supportedOs? : Demand → Option (List Os)
  | .supportedOs kinds => some kinds
  | _ => none

def unsupportedOs? : Demand → Option (List Os)
  | .unsupportedOs kinds => some kinds
  | _ => none

def supportedFeatures? : Demand → Option (List String)
  | .supportedFeatures names => some names
  | _ => none

def unsupportedFeatures? : Demand → Option (List String)
  | .unsupportedFeatures names => some names
  | _ => none

/-- What the last demand of a kind asks for. -/
def last? {α : Type} (kind? : Demand → Option α) (demands : List Demand) : Option α :=
  (demands.filterMap kind?).getLast?

end Demand

open Demand

/-- The shape with only those parts replaced that are demanded. An empty list of features demands
none. -/
def NodeShape.overridden (shape : NodeShape) (demands : List Demand) : NodeShape where
  count := ((last? minCount? demands).map .atLeast).getD shape.count
  nics := ((last? minNics? demands).map .atLeast).getD shape.nics
  features :=
    match last? supportedFeatures? demands with
    | none | some [] => shape.features
    | some names => some (.requireAll names)
  excluded :=
    match last? unsupportedFeatures? demands with
    | none | some [] => shape.excluded
    | some names => some (.deny names)

namespace Demands

/-- What the last demand of each kind asks for. -/
def ofLast (demands : List Demand) : Demands where
  minCount := (last? minCount? demands).getD 1
  minNics := (last? minNics? demands).getD 1
  shape := (last? shape? demands).getD {}
  stage := (last? stage? demands).getD .connected
  supportedPlatforms := (last? supportedPlatforms? demands).getD []
  unsupportedPlatforms := (last? unsupportedPlatforms? demands).getD []
  supportedOs := (last? supportedOs? demands).getD []
  unsupportedOs := (last? unsupportedOs? demands).getD []
  supportedFeatures := (last? supportedFeatures? demands).getD []
  unsupportedFeatures := (last? unsupportedFeatures? demands).getD []

theorem ofLast_concat (demands : List Demand) (demand : Demand) :
    ofLast (demands ++ [demand]) = (ofLast demands).add demand := by
  cases demand <;>
    simp [ofLast, add, last?, minCount?, minNics?, shape?, stage?, supportedPlatforms?,
      unsupportedPlatforms?, supportedOs?, unsupportedOs?, supportedFeatures?,
      unsupportedFeatures?]

theorem ofList_eq (demands : List Demand) : ofList demands = ofLast demands := by
  induction demands using List.reverseRecOn with
  | nil => rfl
  | append_singleton demands demand ih =>
    rw [ofLast_concat, ← ih, ofList, List.foldl_append]
    rfl

variable {demands : List Demand} {shape : NodeShape}

/-- The features of the nodes are those of the overridden shape, and their counts are not. -/
theorem node_ofList (hshape : last? shape? demands = some shape) :
    (ofList demands).node = { shape.overridden demands with
      count := .atLeast ((last? minCount? demands).getD 1)
      nics := .atLeast ((last? minNics? demands).getD 1) } := by
  rw [ofList_eq, node, NodeShape.overridden]
  simp only [ofLast, hshape, Option.getD_some]
  congr 1
  · rcases last? supportedFeatures? demands with - | - | ⟨name, names⟩ <;> rfl
  · rcases last? unsupportedFeatures? demands with - | - | ⟨name, names⟩ <;> rfl

end Demands

namespace Requirement

theorem nodes_make {nodes : List NodeShape} {stage : Stage} {platform : Option (SetRule String)}
    {os : Option (SetRule Os)} {r : Requirement} (h : make nodes stage platform os = .ok r) :
    r.nodes = nodes := by
  rw [make] at h
  split at h
  · cases h
  · cases h
    rfl

theorem nodes_ofDemands {demands : List Demand} {r : Requirement}
    (h : ofDemands demands = .ok r) : r.nodes = [(Demands.ofList demands).node] := by
  rw [ofDemands] at h
  split at h
  · cases h
  · split at h
    · cases h
    · exact nodes_make h

end Requirement

/-- A count that is not demanded is at least one, so it is kept only by chance. -/
theorem CountRange.atLeast_getD_eq_iff (asked : Option UInt32) (own : CountRange) :
    atLeast (asked.getD 1) = (asked.map atLeast).getD own ↔ asked.isSome ∨ own = atLeast 1 := by
  cases asked with
  | none => simpa using eq_comm
  | some n => simp

namespace Requirement

variable {demands : List Demand} {shape : NodeShape} {r : Requirement}

/-- Demands replace the features of the shape only where they ask for some, and its counts always:
the shape is kept but for what is asked only if each count is asked for or is the default one. -/
theorem nodes_ofDemands_shape (hshape : last? shape? demands = some shape)
    (hr : ofDemands demands = .ok r) :
    r.nodes = [{ shape.overridden demands with
      count := .atLeast ((last? minCount? demands).getD 1)
      nics := .atLeast ((last? minNics? demands).getD 1) }] ∧
    (r.nodes = [shape.overridden demands] ↔
      ((last? minCount? demands).isSome ∨ shape.count = .atLeast 1) ∧
      ((last? minNics? demands).isSome ∨ shape.nics = .atLeast 1)) := by
  have hnodes := nodes_ofDemands hr
  rw [Demands.node_ofList hshape] at hnodes
  refine ⟨hnodes, ?_⟩
  rw [hnodes, ← CountRange.atLeast_getD_eq_iff, ← CountRange.atLeast_getD_eq_iff]
  simp only [NodeShape.overridden, List.cons.injEq, NodeShape.mk.injEq, and_true]

/-- Two nodes with a disk. -/
def diskPair : NodeShape where
  count := .exactly 2
  features := some (.requireAll ["disk"])

/-- A request for three nodes that starts from two. -/
def threeForPair : List Demand :=
  [.minCount 3, .shape diskPair, .unsupportedFeatures ["gpu"]]

theorem nodes_ofDemands_threeForPair : ∃ r, ofDemands threeForPair = .ok r ∧
    r.nodes = [⟨.atLeast 3, .atLeast 1, some (.requireAll ["disk"]), some (.deny ["gpu"])⟩] := by
  have hshape : last? shape? threeForPair = some diskPair := rfl
  have hr : ofDemands threeForPair = .ok ⟨[⟨.atLeast 3, .atLeast 1,
    some (.requireAll ["disk"]), some (.deny ["gpu"])⟩], .connected, none, none⟩ := rfl
  exact ⟨_, hr, (nodes_ofDemands_shape hshape hr).1⟩

/-- Two nodes are given and no count is asked for, and one node will do. -/
theorem count_lost_unasked :
    ¬ ∀ (demands : List Demand) (shape : NodeShape) (r : Requirement),
      demands.filterMap shape? = [shape] → ofDemands demands = .ok r →
        r.nodes = [shape.overridden demands] := by
  intro hall
  have hr : ofDemands [.shape diskPair] =
      .ok ⟨[{ diskPair with count := .atLeast 1 }], .connected, none, none⟩ := rfl
  exact absurd (hall _ _ _ rfl hr) (by decide)

end Requirement

end Testbed
