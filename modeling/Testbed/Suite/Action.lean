import Testbed.Environment.Basic
import Testbed.Suite.Interrupt

/-! # Actions

What hooks and bodies do: they read and change the state, log lines, may ask the
run to stop, and end with a value or an interrupt.
-/

namespace Testbed

structure Reply (σ α : Type) where
  result : Except Interrupt α
  /-- The run was asked to start no further case. -/
  stop : Bool
  log : List Log.Line
  state : σ

def Action (σ α : Type) : Type :=
  σ → Reply σ α

namespace Action

variable {σ α β : Type}

def done (a : α) : Action σ α := fun s =>
  ⟨.ok a, false, [], s⟩

def raise (i : Interrupt) : Action σ α := fun s =>
  ⟨.error i, false, [], s⟩

/-- Goes on with the value, unless there was an interrupt. -/
def andThen (x : Action σ α) (f : α → Action σ β) : Action σ β := fun s =>
  let first := x s
  match first.result with
  | .error i => ⟨.error i, first.stop, first.log, first.state⟩
  | .ok a =>
    let second := f a first.state
    ⟨second.result, first.stop || second.stop, first.log ++ second.log, second.state⟩

instance : Monad (Action σ) where
  pure := done
  bind := andThen

instance : Inhabited (Action σ Unit) := ⟨done ()⟩

def log (level : Log.Level) (target text : String) : Action σ Unit := fun s =>
  ⟨.ok (), false, [⟨level, target, text⟩], s⟩

def requestStop : Action σ Unit := fun s =>
  ⟨.ok (), true, [], s⟩

def get : Action σ σ := fun s =>
  ⟨.ok s, false, [], s⟩

def modify (f : σ → σ) : Action σ Unit := fun s =>
  ⟨.ok (), false, [], f s⟩

end Action

/-- Runs a command and raises an interrupt if it could not be run at all. -/
def Node.run {σ : Type} (node : Node σ) (command : String) (arguments : List String) :
    Action σ CommandResult := fun s =>
  let e := node.execute command arguments s
  ⟨e.result.mapError .ofTrouble, false, e.log, e.state⟩

end Testbed
