import Testbed.Requirement.Basic
import Testbed.Suite.Action

/-! # Suites and cases

A suite groups cases and gives them hooks, a classification and a requirement. A
case owns only what it overrides; the rest it reads from the suite it is
attached to, and nothing is copied.
-/

namespace Testbed

variable {σ : Type}

/-- What a hook or a body is called with. -/
structure Context (σ : Type) where
  environment : Environment σ
  /-- The short name of the case; empty in the hooks around a whole suite. -/
  caseName : String

/-- The default node of the environment; without one the case is skipped. -/
def Context.node (ctx : Context σ) : Action σ (Node σ) :=
  match ctx.environment.defaultNode? with
  | some node => pure node
  | none => .raise (.skipped s!"environment '{ctx.environment.name}' has no node")

inductive Hook where
  | beforeSuite
  | afterSuite
  | beforeCase
  | afterCase
  deriving DecidableEq, Repr

def Hook.name : Hook → String
  | beforeSuite => "before_suite"
  | afterSuite => "after_suite"
  | beforeCase => "before_case"
  | afterCase => "after_case"

/-- The hooks of one suite object. What the object remembers is part of the state. -/
abbrev Hooks (σ : Type) : Type :=
  Hook → Context σ → Action σ Unit

def Hooks.none : Hooks σ :=
  fun _ _ => pure ()

structure Suite (σ : Type) where
  name : String
  area : String := ""
  category : String := ""
  description : String := ""
  tags : List String := []
  /-- The requirement of cases without their own; the standard one if not declared. -/
  ownRequirement : Option Requirement := none
  /-- Makes a fresh suite object for one run. -/
  create : σ → Hooks σ × σ := fun s => (Hooks.none, s)

namespace Suite

def requirement (suite : Suite σ) : Requirement :=
  suite.ownRequirement.getD .standard

end Suite

structure Case (σ : Type) where
  suiteName : String
  name : String
  description : String := ""
  /-- The most important cases have priority 0. -/
  priority : UInt32 := 2
  ownRequirement : Option Requirement := none
  body : Context σ → Action σ Unit := fun _ => pure ()
  /-- The suite that the case belongs to, once both are registered. -/
  suite : Option (Suite σ) := none

namespace Case

def fullName (c : Case σ) : String :=
  s!"{c.suiteName}.{c.name}"

def requirement (c : Case σ) : Requirement :=
  match c.ownRequirement, c.suite with
  | some own, _ => own
  | none, some suite => suite.requirement
  | none, none => .standard

def area (c : Case σ) : String :=
  (c.suite.map (·.area)).getD ""

def category (c : Case σ) : String :=
  (c.suite.map (·.category)).getD ""

def tags (c : Case σ) : List String :=
  (c.suite.map (·.tags)).getD []

/-- A case keeps the suite that it was attached to first. -/
def attach (c : Case σ) (suite : Suite σ) : Case σ :=
  { c with suite := c.suite.or (some suite) }

/-- The requirement is the very one of the suite that the case is attached to. -/
def sharesSuiteRequirement (c : Case σ) : Bool :=
  c.ownRequirement.isNone && c.suite.isSome

/-- Neither the case nor its suite declares a requirement. -/
def usesStandardRequirement (c : Case σ) : Bool :=
  c.ownRequirement.isNone && c.suite.all fun suite => suite.ownRequirement.isNone

end Case

end Testbed
