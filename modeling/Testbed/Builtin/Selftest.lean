import Testbed.Builtin.Slot
import Testbed.Registry.Basic
import Testbed.Requirement.Demand

/-! # The self-test suite

Cases that reach every outcome that a record can have.
-/

namespace Testbed.Builtin.Selftest

variable {σ : Type}

def logTarget : String :=
  "lisa::suites::selftest"

def suite : Suite σ where
  name := "Selftest"
  area := "selftest"
  category := "sanity"
  description := "Engine self checks: requirement gating, warnings and retries."
  tags := ["selftest"]

/-- One connected node of the given kind. -/
def requireOs (os : Os) : Requirement :=
  { Requirement.standard with os := some (.requireAny [os]) }

theorem ofDemands_supportedOs (os : Os) :
    Requirement.ofDemands [.supportedOs [os]] = .ok (requireOs os) := rfl

def nodeOs (ctx : Context σ) : Action σ Unit := do
  let node ← ctx.node
  match node.os with
  | none => Action.raise (.skipped "node os is unknown")
  | some os =>
    let result ← node.run "uname" ["-s"]
    if result.succeeded then
      Action.log .info logTarget s!"{os}: {Text.trim result.stdout}"
    else
      Action.raise (.failed s!"uname exited with {result.exitCode}")

/-- Fails on the first of all attempts, which are counted in the given slot. -/
def flaky (attempts : Slot σ Nat) (_ : Context σ) : Action σ Unit := do
  let before := attempts.get (← Action.get)
  Action.modify (attempts.set (before + 1))
  if before = 0 then Action.raise (.failed "first attempt always fails")

def items (attempts : Slot σ Nat) : List (Registry.Item σ) := [
  .suite suite,
  .testCase {
    suiteName := "Selftest", name := "node_os", description := "Query the kernel name."
    priority := 1, ownRequirement := some (requireOs .posix), body := nodeOs },
  .testCase {
    suiteName := "Selftest", name := "windows_only"
    description := "Only runs where the node is Windows."
    priority := 3, ownRequirement := some (requireOs .windows) },
  .testCase {
    suiteName := "Selftest", name := "warn", description := "Passes with a warning."
    priority := 3, body := fun _ => Action.raise (.passedWithWarning "nothing to verify") },
  .testCase {
    suiteName := "Selftest", name := "flaky"
    description := "Fails on its first attempt in a process."
    priority := 4, body := flaky attempts }]

end Testbed.Builtin.Selftest
