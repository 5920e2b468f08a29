import Testbed.Environment.Basic
import Testbed.Requirement.Basic

/-! # Matching an environment with a requirement

The stage, the nodes, the platform and the operating systems are compared in
this order. A thorough check compares all of them and collects every reason;
any other check ends at the first mismatch.
-/

namespace Testbed.Requirement

variable {σ : Type}

def checkStage (r : Requirement) (e : Environment σ) : Finding :=
  if e.stage.satisfies r.stage then .ok
  else .failed s!"environment status {e.stage} doesn't meet required {r.stage}"

def checkPlatform (r : Requirement) (e : Environment σ) : Finding :=
  match r.platform with
  | none => .ok
  | some rule => rule.check [e.platform]

/-- A node offers its kind of operating system with all ancestors, and nothing if the kind is
unknown. -/
def checkNodeOs (rule : SetRule Os) (node : Node σ) : Finding :=
  rule.check ((node.os.map Os.ancestors).getD [])

def checkOs (rule : SetRule Os) (thorough : Bool) (finding : Finding) : List (Node σ) → Finding
  | [] => finding
  | node :: rest =>
    let part := checkNodeOs rule node
    let finding := finding.merge part "os_type"
    if part.met || thorough then checkOs rule thorough finding rest else finding

/-- Operating systems are looked at on a connected environment only. -/
def check (r : Requirement) (e : Environment σ) (thorough : Bool) : Finding :=
  let finding := r.checkStage e
  let finding :=
    if finding.met || thorough then finding.merge (Topology.check r.nodes e.offers) "environment"
    else finding
  let finding :=
    if finding.met || thorough then finding.merge (r.checkPlatform e) "platform_type"
    else finding
  if finding.met || thorough then
    match r.os with
    | some rule => if e.stage = .connected then checkOs rule thorough finding e.nodes else finding
    | none => finding
  else finding

end Testbed.Requirement
