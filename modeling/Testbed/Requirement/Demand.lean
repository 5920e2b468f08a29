import Testbed.Requirement.Basic

/-! # Requirements from demands

Most requirements ask for nodes of one shape. They are written as a list of
demands, of which the last of each kind counts.
-/

namespace Testbed

inductive Demand where
  | minCount (n : UInt32)
  | minNics (n : UInt32)
  /-- The shape to start from; its counts never stand, its features do unless others are asked. -/
  | shape (shape : NodeShape)
  | stage (stage : Stage)
  | supportedPlatforms (names : List String)
  | unsupportedPlatforms (names : List String)
  | supportedOs (kinds : List Os)
  | unsupportedOs (kinds : List Os)
  | supportedFeatures (names : List String)
  | unsupportedFeatures (names : List String)

/-- The demands made so far, with what holds where none was made. -/
structure Demands where
  minCount : UInt32 := 1
  minNics : UInt32 := 1
  shape : NodeShape := {}
  stage : Stage := .connected
  supportedPlatforms : List String := []
  unsupportedPlatforms : List String := []
  supportedOs : List Os := []
  unsupportedOs : List Os := []
  supportedFeatures : List String := []
  unsupportedFeatures : List String := []

namespace Demands

def add (d : Demands) : Demand → Demands
  | .minCount n => { d with minCount := n }
  | .minNics n => { d with minNics := n }
  | .shape shape => { d with shape }
  | .stage stage => { d with stage }
  | .supportedPlatforms names => { d with supportedPlatforms := names }
  | .unsupportedPlatforms names => { d with unsupportedPlatforms := names }
  | .supportedOs kinds => { d with supportedOs := kinds }
  | .unsupportedOs kinds => { d with unsupportedOs := kinds }
  | .supportedFeatures names => { d with supportedFeatures := names }
  | .unsupportedFeatures names => { d with unsupportedFeatures := names }

def ofList (demands : List Demand) : Demands :=
  demands.foldl add {}

/-- The shape of the nodes: both counts are the demanded ones, and features that were demanded
replace those of the shape. -/
def node (d : Demands) : NodeShape where
  count := .atLeast d.minCount
  nics := .atLeast d.minNics
  features := if d.supportedFeatures = [] then d.shape.features
    else some (.requireAll d.supportedFeatures)
  excluded := if d.unsupportedFeatures = [] then d.shape.excluded
    else some (.deny d.unsupportedFeatures)

end Demands

/-- The platforms are looked at before the operating systems, and both before the stage. -/
def Requirement.ofDemands (demands : List Demand) : Except Requirement.Error Requirement :=
  let d := Demands.ofList demands
  match SetRule.ofLists d.supportedPlatforms d.unsupportedPlatforms "platform type" with
  | .error cause => .error (.rule cause)
  | .ok platform =>
    match SetRule.ofLists d.supportedOs d.unsupportedOs "operating system" with
    | .error cause => .error (.rule cause)
    | .ok os => make [d.node] d.stage platform os

end Testbed
