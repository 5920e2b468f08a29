import Testbed.Environment.Facts
import Testbed.Environment.Stage
import Testbed.Log
import Testbed.Os.Basic
import Testbed.Requirement.Topology
import Testbed.Trouble

/-! # Environments

Nodes that commands can be run on, at one stage of their life. Everything that
commands can change is a state of any type `σ`. What an environment offers, the
node that it puts forward and the facts that it tells come from its nodes and its
name, unless it has its own.
-/

namespace Testbed

structure CommandResult where
  exitCode : Int
  stdout : String
  stderr : String
  deriving DecidableEq, Repr, Inhabited

def CommandResult.succeeded (r : CommandResult) : Bool :=
  r.exitCode = 0

/-- What running a command led to. -/
structure Execution (σ : Type) where
  result : Except Trouble CommandResult
  log : List Log.Line
  state : σ

structure Node (σ : Type) where
  name : String
  /-- Unknown until the node has been connected to and looked at. -/
  os : Option Os
  offer : NodeOffer
  execute : String → List String → σ → Execution σ

structure Environment (σ : Type) where
  name : String
  stage : Stage
  nodes : List (Node σ)
  /-- Empty if unknown. -/
  platform : String := ""
  /-- What is offered instead of what the nodes offer. -/
  ownOffers : Option (List NodeOffer) := none
  /-- The node put forward instead of the first one, if any is. -/
  ownDefault : Option (Option (Node σ)) := none
  /-- Facts told instead of the usual ones. -/
  ownFacts : Option Facts := none
  /-- Holds until a suite has run. -/
  isNew : Bool := true

namespace Environment

variable {σ : Type}

/-- Usually what the nodes offer, in order. -/
def offers (e : Environment σ) : List NodeOffer :=
  e.ownOffers.getD (e.nodes.map (·.offer))

/-- The node that a hook or body works on unless it asks for another; usually the first one. -/
def defaultNode? (e : Environment σ) : Option (Node σ) :=
  e.ownDefault.getD e.nodes.head?

/-- What result messages tell about the environment: usually its name, and its platform if that
is known. -/
def facts (e : Environment σ) : Facts :=
  e.ownFacts.getD <|
    let named := Facts.empty.insert "environment" e.name
    if e.platform.isEmpty then named else named.insert "platform" e.platform

def markUsed (e : Environment σ) : Environment σ :=
  { e with isNew := false }

@[simp] theorem isNew_markUsed (e : Environment σ) : e.markUsed.isNew = false := rfl

end Environment

end Testbed
