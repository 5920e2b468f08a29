import Testbed.Requirement.CountRange
import Testbed.Requirement.SetRule

/-! # Nodes asked for and nodes offered

A shape describes nodes and how many of them are needed. A list of shapes is met
if for each shape the number of offered nodes that fit lies in its range.
-/

namespace Testbed

/-- What one node offers. -/
structure NodeOffer where
  name : String
  nics : UInt32 := 1
  features : ItemSet String := .empty
  deriving DecidableEq

def NodeOffer.json (offer : NodeOffer) : Json :=
  .obj [
    ("name", .str offer.name),
    ("nic_count", .int offer.nics.toNat),
    ("features", Json.strs offer.features.toList)]

/-- What nodes of one kind must offer, and how many of them are needed. -/
structure NodeShape where
  count : CountRange := .atLeast 1
  nics : CountRange := .atLeast 1
  features : Option (SetRule String) := none
  excluded : Option (SetRule String) := none
  deriving DecidableEq

namespace NodeShape

instance : Inhabited NodeShape := ⟨{}⟩

def json (shape : NodeShape) : Json :=
  .obj <|
    [("node_count", shape.count.json), ("nic_count", shape.nics.json)] ++
    Json.field? "features" (shape.features.map (·.json .str)) ++
    Json.field? "excluded_features" (shape.excluded.map (·.json .str))

def checkFeatures (rule : Option (SetRule String)) (offer : NodeOffer) : Finding :=
  match rule with
  | none => .ok
  | some rule => rule.check offer.features.toList

/-- Compares one node with the shape, apart from the number of nodes. -/
def check (shape : NodeShape) (offer : NodeOffer) : Finding :=
  ((Finding.ok.merge (shape.nics.check offer.nics) "nic_count").merge
    (checkFeatures shape.features offer) "features").merge
    (checkFeatures shape.excluded offer) "features"

/-- The number of nodes that fit, as a word that wraps, and why the others do not. -/
def tally (shape : NodeShape) (offers : List NodeOffer) : UInt32 × Finding :=
  offers.foldl
    (fun (fitting, misfits) offer =>
      let finding := shape.check offer
      if finding.met then (fitting + 1, misfits)
      else (fitting, misfits.merge finding offer.name))
    (0, .ok)

/-- The finding for the shape at the given position. The nodes that do not fit are explained
only if the number of fitting ones is out of range. -/
def checkCount (position : Nat) (shape : NodeShape) (offers : List NodeOffer) : Finding :=
  let (fitting, misfits) := shape.tally offers
  let count := shape.count.check fitting
  if count.met then .ok
  else
    (Finding.ok.merge count s!"nodes[{position}].node_count").merge misfits s!"nodes[{position}]"

end NodeShape

namespace Topology

def check (shapes : List NodeShape) (offers : List NodeOffer) : Finding :=
  shapes.zipIdx.foldl
    (fun finding (shape, position) => finding.merge (shape.checkCount position offers) "") .ok

def json (shapes : List NodeShape) : Json :=
  .obj [("nodes", .arr (shapes.map NodeShape.json))]

end Topology

end Testbed
