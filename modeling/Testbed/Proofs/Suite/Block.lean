import Testbed.Proofs.Suite.Tries

/-! # The block of a record

Running one record makes a block of calls: tries of the setup of the case, of
its body and of its cleanup. What the record ends as, and everything that the
run of it does and tells, can be read off the replies in its block.
-/

namespace Testbed.Suite.Job

open Reply

variable {σ : Type}

/-- The replies to the calls that are made for one record. -/
structure Block (σ : Type) where
  before : List (Reply σ Unit)
  body : List (Reply σ Unit)
  after : List (Reply σ Unit)

namespace Block

def replies (b : Block σ) : List (Reply σ Unit) :=
  b.before ++ b.body ++ b.after

/-- Whether one of the calls asks to stop. -/
def stops (b : Block σ) : Bool :=
  b.replies.any (·.stop)

/-- What shows of the setup and the body. -/
def opening (b : Block σ) (job : Job σ) (r : Record σ) : Journal :=
  b.before.flatMap (·.acts job.suite (.hook .beforeCase) (job.context r)) ++
    b.body.flatMap (·.acts job.suite .body (job.context r))

/-- What shows of the cleanup. -/
def closing (b : Block σ) (job : Job σ) (r : Record σ) : Journal :=
  b.after.flatMap (·.acts job.suite (.hook .afterCase) (job.context r))

/-- What shows of the whole block. -/
def acts (b : Block σ) (job : Job σ) (r : Record σ) : Journal :=
  b.opening job r ++ b.closing job r

/-- The block is the one that the hooks and the body of a record give from a state. The body is
left out if the setup of the suite or the last try of the setup of the case has failed; the cleanup
never is. -/
structure Follows (b : Block σ) (job : Job σ) (setupFailed : Bool) (r : Record σ) (s : σ) :
    Prop where
  before : if setupFailed then b.before = []
    else Tried (job.hooks .beforeCase (job.context r)) (bound r) s b.before
  body : if setupFailed ∨ lastInterrupt? b.before ≠ none then b.body = []
    else Tried (r.testCase.body (job.context r)) (bound r) (lastState s b.before) b.body
  after : Tried (job.hooks .afterCase (job.context r)) (bound r)
    (lastState s (b.before ++ b.body)) b.after

end Block

variable (job : Job σ) (setupError : Option String) (r : Record σ)

/-- The block of a record from a state. -/
def block (s : σ) : Block σ :=
  let before := job.replies r (job.hooks .beforeCase) s
  let body := job.replies r r.testCase.body (lastState s before)
  let after := job.replies r (job.hooks .afterCase)
  match setupError, lastInterrupt? before with
  | some _, _ => ⟨[], [], after s⟩
  | none, some _ => ⟨before, [], after (lastState s before)⟩
  | none, none => ⟨before, body, after (lastState s (before ++ body))⟩

theorem follows_block (s : σ) :
    (job.block setupError r s).Follows job setupError.isSome r s := by
  simp only [block]
  split
  · exact ⟨rfl, by simp, job.tried_replies ..⟩
  · rename_i h
    exact ⟨job.tried_replies .., by simp [h], by simpa using job.tried_replies ..⟩
  · rename_i h
    exact ⟨job.tried_replies .., by simpa [h] using job.tried_replies .., job.tried_replies ..⟩

theorem after_block (s : σ) :
    let b := job.block setupError r s
    b.after = job.replies r (job.hooks .afterCase) (lastState s (b.before ++ b.body)) := by
  simp only [block]
  split <;> simp

/-- The status that the last try of a body leads to, and the text that goes with it. -/
def bodyVerdict (last : Option Interrupt) : Status × String :=
  match last with
  | some i => i.verdict r.ignoreFailure ""
  | none => (.passed, "")

/-- The status that a block leads to, and the text that goes with it. -/
def verdict (b : Block σ) : Status × String :=
  match setupError, lastInterrupt? b.before with
  | some text, _ => (.skipped, text)
  | none, some i => (.skipped, s!"before_case: {i.detail}")
  | none, none => bodyVerdict r (lastInterrupt? b.body)

end Testbed.Suite.Job

namespace Testbed

variable {σ : Type}

namespace Record

/-- The entry by which others are told of a record. -/
def told (r : Record σ) (now : Nat) : Entry :=
  .message (.record (r.message now))

theorem run_set (r : Record σ) (status : Status) (text : String) (w : World σ) :
    (r.set status text).run w =
      let r := r.withStatus status text w.now
      ⟨r, [r.told w.now], w⟩ := rfl

end Record

namespace Suite

section Timed

variable {α : Type} (what : String) (t : Task σ α) (w : World σ)

@[simp] theorem value_timed : ((timed what t).run w).value = (t.run w).value := rfl

@[simp] theorem world_timed : ((timed what t).run w).world = (t.run w).world := rfl

@[simp] theorem events_timed :
    Journal.events ((timed what t).run w).journal = Journal.events (t.run w).journal := by
  simp [timed]

end Timed

namespace Job

open Reply

variable (job : Job σ) (setupError : Option String) (r : Record σ) (w : World σ)

theorem run_runBody :
    let run := (job.runBody r).run w
    let replies := job.replies r r.testCase.body w.state
    let verdict := bodyVerdict r (lastInterrupt? replies)
    run.value = r.withStatus verdict.1 verdict.2 run.world.now ∧
      run.world.state = lastState w.state replies ∧
      run.journal.events = replies.flatMap (·.acts job.suite .body (job.context r)) ++
        [run.value.told run.world.now] := by
  intro run replies verdict
  obtain ⟨hv, hs, hj⟩ := job.run_retried r r.name .body r.testCase.body w
  simp only [run, verdict, runBody, Task.run_bind, Journal.events_append]
  rw [← hj, ← hs, ← hv]
  obtain ⟨value, journal, world⟩ := (job.retried r r.name .body r.testCase.body).run w
  cases value with
  | ok => exact ⟨rfl, rfl, rfl⟩
  | error i => exact ⟨rfl, rfl, rfl⟩

theorem run_caseHook (hook : Hook) :
    let run := (job.caseHook r hook).run w
    let replies := job.replies r (job.hooks hook) w.state
    interruptOf? run.value = lastInterrupt? replies ∧ run.world.state = lastState w.state replies ∧
      run.journal.events = replies.flatMap (·.acts job.suite (.hook hook) (job.context r)) :=
  job.run_retried r hook.name (.hook hook) (job.hooks hook) w

theorem run_setUp :
    let run := (job.setUp r).run w
    let replies := job.replies r (job.hooks .beforeCase) w.state
    run.value = (lastInterrupt? replies).map (fun i =>
        r.withStatus .skipped s!"before_case: {i.detail}" run.world.now) ∧
      run.world.state = lastState w.state replies ∧
      run.journal.events =
        replies.flatMap (·.acts job.suite (.hook .beforeCase) (job.context r)) ++
          run.value.toList.map (·.told run.world.now) := by
  intro run replies
  obtain ⟨hv, hs, hj⟩ := job.run_caseHook r w .beforeCase
  simp only [run, replies, setUp, Task.run_bind, Journal.events_append]
  rw [← hj, ← hs, ← hv]
  obtain ⟨value, journal, world⟩ := (job.caseHook r .beforeCase).run w
  cases value with
  | ok => exact ⟨rfl, rfl, rfl⟩
  | error i => exact ⟨rfl, rfl, rfl⟩

theorem run_cleanUp :
    let run := (job.cleanUp r).run w
    let replies := job.replies r (job.hooks .afterCase) w.state
    run.world.state = lastState w.state replies ∧
      run.journal.events =
        replies.flatMap (·.acts job.suite (.hook .afterCase) (job.context r)) := by
  intro run replies
  obtain ⟨-, hs, hj⟩ := job.run_caseHook r w .afterCase
  simp only [run, replies, cleanUp, Task.run_bind, Journal.events_append]
  rw [← hj, ← hs]
  obtain ⟨value, journal, world⟩ := (job.caseHook r .afterCase).run w
  cases value with
  | ok => exact ⟨rfl, List.append_nil _⟩
  | error i => exact ⟨rfl, List.append_nil _⟩

theorem run_runCase :
    let run := (job.runCase setupError r).run w
    let b := job.block setupError r w.state
    let verdict := verdict setupError r b
    run.value = r.withStatus verdict.1 verdict.2 run.world.now ∧
      run.world.state = lastState w.state (b.before ++ b.body) ∧
      run.journal.events = b.opening job r ++ [run.value.told run.world.now] := by
  cases setupError with
  | some text => exact ⟨rfl, rfl, rfl⟩
  | none =>
    obtain ⟨hv, hs, hj⟩ := job.run_setUp r w
    simp only [block, runCase, Task.run_bind, Journal.events_append, value_timed, world_timed,
      events_timed]
    generalize (job.setUp r).run w = first at *
    obtain ⟨value, journal, world⟩ := first
    dsimp only at hv hs hj ⊢
    cases hlast : lastInterrupt? (job.replies r (job.hooks .beforeCase) w.state) with
    | none =>
      obtain rfl : value = none := by rw [hv, hlast]; rfl
      obtain ⟨hv', hs', hj'⟩ := job.run_runBody r world
      simp only [verdict, Block.opening, hlast, ← hs, lastState_append, value_timed, world_timed,
        events_timed]
      refine ⟨hv', hs', ?_⟩
      rw [hj, hj', Option.toList_none, List.map_nil, List.append_nil, List.append_assoc]
    | some i =>
      obtain rfl : value = some _ := by rw [hv, hlast]; rfl
      simp only [verdict, Block.opening, hlast, List.append_nil, List.flatMap_nil, Task.run_pure,
        Journal.events_nil]
      exact ⟨trivial, hs, hj⟩

theorem runRecord_eq :
    let run := (job.runRecord setupError r).run w
    let started := (r.bind job.environment).withStatus .running "" w.now
    let main := (job.runCase setupError started).run w
    let cleanup := (job.cleanUp main.value).run main.world
    run.value = main.value ∧ run.world.state = cleanup.world.state ∧
      run.journal.events =
        started.told w.now :: (main.journal.events ++ cleanup.journal.events) := by
  simp [runRecord, Record.run_set, Record.told]

/-- A record is told of when it starts and when its result is set, with the setup and the body in
between and the cleanup behind. -/
theorem run_runRecord :
    let run := (job.runRecord setupError r).run w
    let b := job.block setupError r w.state
    let verdict := verdict setupError r b
    let started := (r.bind job.environment).withStatus .running "" w.now
    ∃ now, run.value = started.withStatus verdict.1 verdict.2 now ∧
      run.world.state = lastState w.state b.replies ∧
      run.journal.events =
        started.told w.now :: (b.opening job r ++ run.value.told now :: b.closing job r) := by
  intro run b verdict started
  obtain ⟨hv, hw, hj⟩ := job.runRecord_eq setupError r w
  obtain ⟨hv₁, hw₁, hj₁⟩ := job.run_runCase setupError started w
  generalize (job.runCase setupError started).run w = main at *
  change main.value = started.withStatus verdict.1 verdict.2 main.world.now at hv₁
  change main.world.state = lastState w.state (b.before ++ b.body) at hw₁
  obtain ⟨hw₂, hj₂⟩ := job.run_cleanUp main.value main.world
  have hcontext : job.context main.value = job.context r := by rw [hv₁]; rfl
  have hafter : job.replies main.value (job.hooks .afterCase) main.world.state = b.after := by
    rw [hw₁, after_block, hv₁]
    rfl
  rw [hafter] at hw₂
  rw [hafter, hcontext] at hj₂
  refine ⟨main.world.now, hv.trans hv₁, ?_, ?_⟩
  · rw [hw, hw₂, hw₁, ← lastState_append]
    rfl
  · rw [hj, hj₁, hj₂, hv, List.append_assoc]
    rfl

end Job

end Suite

end Testbed
