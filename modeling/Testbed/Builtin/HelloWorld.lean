import Testbed.Builtin.Slot
import Testbed.Registry.Basic
import Testbed.Text.Quoted

/-! # The greeting suite

Echoes a greeting on the default node and looks at what comes back.
-/

namespace Testbed.Builtin.HelloWorld

variable {σ : Type}

def logTarget : String :=
  "lisa::suites::hello_world"

/-- Counts the cases that are let through in the given slot. -/
def hooks (seen : Slot σ Nat) : Hooks σ
  | .beforeSuite, ctx =>
    Action.log .info logTarget s!"hello world suite on '{ctx.environment.name}'"
  | .beforeCase, ctx =>
    if ctx.environment.stage = .connected then
      Action.modify fun s => seen.set (seen.get s + 1) s
    else
      Action.raise (.notRun "environment is not connected")
  | .afterSuite, _ => do
    let count := seen.get (← Action.get)
    Action.log .info logTarget s!"hello world suite finished {count} case(s)"
  | .afterCase, _ => pure ()

def suite (seen : Slot σ Nat) : Suite σ where
  name := "HelloWorld"
  area := "demo"
  category := "functional"
  description := "Echoes a greeting on the default node."
  tags := ["demo"]
  create := fun s => (hooks seen, seen.set 0 s)

def echo (text : String) (ctx : Context σ) : Action σ Unit := do
  let node ← ctx.node
  let result ← node.run "echo" [text]
  let answer := Text.trim result.stdout
  if !result.succeeded then
    Action.raise (.failed s!"echo exited with {result.exitCode}: {Text.trim result.stderr}")
  else if answer ≠ text then
    Action.raise (.failed s!"expected {Text.quoted text}, got {Text.quoted answer}")
  else
    Action.log .info logTarget s!"{node.name} said {Text.quoted text}"

def items (seen : Slot σ Nat) : List (Registry.Item σ) := [
  .suite (suite seen),
  .testCase {
    suiteName := "HelloWorld", name := "hello", description := "Say hello.", priority := 1
    body := echo "hello world" },
  .testCase {
    suiteName := "HelloWorld", name := "bye", description := "Say bye.", body := echo "bye" }]

end Testbed.Builtin.HelloWorld
