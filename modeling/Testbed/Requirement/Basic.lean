import Testbed.Environment.Stage
import Testbed.Os.Basic
import Testbed.Requirement.Topology

/-! # Requirements

What an environment must offer to host a case: nodes, a stage, a platform and
operating systems. Operating systems can only be seen on a connected
environment, so a requirement for a deployed one cannot ask for any.
-/

namespace Testbed

structure Requirement where
  nodes : List NodeShape
  stage : Stage
  platform : Option (SetRule String)
  os : Option (SetRule Os)
  deriving DecidableEq

namespace Requirement

inductive Error where
  | osNeedsConnection
  | rule (cause : RuleError)
  deriving DecidableEq, Repr

namespace Error

def message : Error → String
  | osNeedsConnection => "requirement doesn't support os_type, when status is deployed"
  | rule cause => cause.message

/-- The rule at fault, if there is one. -/
def cause? : Error → Option RuleError
  | osNeedsConnection => none
  | rule cause => some cause

end Error

/-- What a suite requires that declares nothing: one connected node. -/
def standard : Requirement :=
  ⟨[{}], .connected, none, none⟩

instance : Inhabited Requirement := ⟨standard⟩

def make (nodes : List NodeShape) (stage : Stage) (platform : Option (SetRule String))
    (os : Option (SetRule Os)) : Except Error Requirement :=
  if stage = .deployed ∧ os.isSome then .error .osNeedsConnection
  else .ok ⟨nodes, stage, platform, os⟩

def json (r : Requirement) : Json :=
  .obj <|
    [("environment", Topology.json r.nodes), ("environment_status", .str r.stage.name)] ++
    Json.field? "platform_type" (r.platform.map (·.json .str)) ++
    Json.field? "os_type" (r.os.map (·.json fun os => .str os.slug))

end Requirement

end Testbed
