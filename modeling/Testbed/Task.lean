import Testbed.Journal

/-! # Tasks

A task changes the world and leaves entries in a journal. Tasks are sequenced
like actions; the journal of a sequence is the journals of its parts in a row.
-/

namespace Testbed

/-- The state that hooks, bodies and nodes share, and the clock in milliseconds. -/
structure World (σ : Type) where
  state : σ
  now : Nat := 0

/-- What came of a task, what it left in the journal, and the world after it. -/
structure Stretch (σ α : Type) where
  value : α
  journal : Journal
  world : World σ

def Task (σ α : Type) : Type :=
  World σ → Stretch σ α

namespace Task

variable {σ α β : Type}

def run (t : Task σ α) (w : World σ) : Stretch σ α :=
  t w

instance : Monad (Task σ) where
  pure a := fun w => ⟨a, [], w⟩
  bind t f := fun w =>
    let first := t w
    let second := f first.value first.world
    ⟨second.value, first.journal ++ second.journal, second.world⟩

@[simp] theorem run_pure (a : α) (w : World σ) : (pure a : Task σ α).run w = ⟨a, [], w⟩ := rfl

@[simp] theorem run_bind (t : Task σ α) (f : α → Task σ β) (w : World σ) :
    (t >>= f).run w =
      let first := t.run w
      let second := (f first.value).run first.world
      ⟨second.value, first.journal ++ second.journal, second.world⟩ := rfl

theorem ext {s t : Task σ α} (h : ∀ w, s.run w = t.run w) : s = t :=
  funext h

instance : LawfulMonad (Task σ) :=
  LawfulMonad.mk' _
    (fun t => ext fun w => by
      change Stretch.mk _ ((t.run w).journal ++ []) _ = _
      rw [List.append_nil]; rfl)
    (fun a f => ext fun w => by simp)
    (fun t f g => ext fun w => by simp)

/-- The clock. -/
def now : Task σ Nat := fun w =>
  ⟨w.now, [], w⟩

/-- Lets time pass. -/
def wait (milliseconds : Nat) : Task σ Unit := fun w =>
  ⟨(), [], { w with now := w.now + milliseconds }⟩

def note (entry : Entry) : Task σ Unit := fun w =>
  ⟨(), [entry], w⟩

def log (level : Log.Level) (target text : String) : Task σ Unit :=
  note (.line ⟨level, target, text⟩)

/-- Lets a function of the state act. -/
def update (f : σ → α × σ) : Task σ α := fun w =>
  let (a, s) := f w.state
  ⟨a, [], { w with state := s }⟩

/-- Hands over what the task left in the journal, which stays there. -/
def listen (t : Task σ α) : Task σ (α × Journal) := fun w =>
  let s := t w
  ⟨(s.value, s.journal), s.journal, s.world⟩

/-- Calls a hook or a body. Its lines, and its request to stop, follow the entry of the call. -/
def call (suite : String) (target : Call.Target) (ctx : Context σ)
    (action : Context σ → Action σ Unit) : Task σ (Except Interrupt Unit) := fun w =>
  let reply := action ctx w.state
  let interrupt := match reply.result with
    | .ok _ => none
    | .error i => some i
  { value := reply.result
    journal := .call ⟨suite, target, ctx.caseName, ctx.environment.isNew, interrupt⟩ ::
      (reply.log.map .line ++ if reply.stop then [.stop] else [])
    world := { w with state := reply.state } }

@[simp] theorem run_now (w : World σ) : (now : Task σ Nat).run w = ⟨w.now, [], w⟩ := rfl

@[simp] theorem run_note (entry : Entry) (w : World σ) :
    (note entry).run w = ⟨(), [entry], w⟩ := rfl

@[simp] theorem run_log (level : Log.Level) (target text : String) (w : World σ) :
    (log level target text).run w = ⟨(), [.line ⟨level, target, text⟩], w⟩ := rfl

@[simp] theorem run_wait (milliseconds : Nat) (w : World σ) :
    (wait milliseconds).run w = ⟨(), [], { w with now := w.now + milliseconds }⟩ := rfl

@[simp] theorem run_listen (t : Task σ α) (w : World σ) :
    (listen t).run w = ⟨((t.run w).value, (t.run w).journal), (t.run w).journal, (t.run w).world⟩ :=
  rfl

end Task

end Testbed
