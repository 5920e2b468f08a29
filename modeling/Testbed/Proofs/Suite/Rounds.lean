import Testbed.Proofs.Suite.Block

/-! # The rounds of a suite run

A suite run is its setup, a round for each record up to a stop, and its cleanup.
Each round starts from the state in which the one before it has ended, and the
records behind the last round stay as they are.
-/

namespace Testbed.Suite.Job

open Reply

variable {σ : Type}

/-- The run of one record: as it came, the replies to the calls made for it, and the moments at
which it was set to running and to its result. -/
structure Round (σ : Type) where
  record : Record σ
  block : Block σ
  began : Nat
  ended : Nat

namespace Round

variable (round : Round σ) (job : Job σ) (setupError : Option String)

/-- The record while it is running. -/
def started : Record σ :=
  (round.record.bind job.environment).withStatus .running "" round.began

/-- The record with its result. -/
def final : Record σ :=
  let verdict := verdict setupError round.record round.block
  (round.started job).withStatus verdict.1 verdict.2 round.ended

def events : Journal :=
  (round.started job).told round.began :: (round.block.opening job round.record ++
    (round.final job setupError).told round.ended :: round.block.closing job round.record)

end Round

/-- The records behind the rounds are those behind the first one at the end of which a stop has
been asked for, in its block or before. -/
inductive Rounds (job : Job σ) (setupFailed : Bool) (stopAsked : Bool) :
    σ → List (Round σ) → List (Record σ) → Prop where
  | done {s : σ} : Rounds job setupFailed stopAsked s [] []
  | stopped {s : σ} {round : Round σ} {rest : List (Record σ)} :
      round.block.Follows job setupFailed round.record s →
      (stopAsked || round.block.stops) = true →
      Rounds job setupFailed stopAsked s [round] rest
  | next {s : σ} {round : Round σ} {rounds : List (Round σ)} {rest : List (Record σ)} :
      round.block.Follows job setupFailed round.record s →
      (stopAsked || round.block.stops) = false →
      Rounds job setupFailed stopAsked (lastState s round.block.replies) rounds rest →
      Rounds job setupFailed stopAsked s (round :: rounds) rest

variable (job : Job σ) (setupError : Option String) (stopAsked : Bool)

/-- Whether the end of the last round finds a stop asked for. -/
def stopSeen (rounds : List (Round σ)) : Bool :=
  !rounds.isEmpty && (stopAsked || rounds.any (·.block.stops))

theorem stopSeen_cons {round : Round σ} (h : (stopAsked || round.block.stops) = false)
    (rounds : List (Round σ)) :
    stopSeen stopAsked (round :: rounds) = stopSeen stopAsked rounds := by
  obtain ⟨ha, hr⟩ := Bool.or_eq_false_iff.mp h
  cases rounds <;> simp [stopSeen, ha, hr]

theorem Rounds.stopSeen_of_ne_nil {job : Job σ} {setupFailed stopAsked : Bool} {s : σ}
    {rounds : List (Round σ)} {rest : List (Record σ)}
    (h : job.Rounds setupFailed stopAsked s rounds rest) (hrest : rest ≠ []) :
    stopSeen stopAsked rounds = true := by
  induction h with
  | done => exact absurd rfl hrest
  | stopped _ hb => simpa [stopSeen] using hb
  | next _ hb _ ih =>
    rw [stopSeen_cons _ hb]
    exact ih hrest

theorem Rounds.stopSeen_take {job : Job σ} {setupFailed stopAsked : Bool} {s : σ}
    {rounds : List (Round σ)} {rest : List (Record σ)}
    (h : job.Rounds setupFailed stopAsked s rounds rest) {k : Nat} (hk : k < rounds.length) :
    stopSeen stopAsked (rounds.take k) = false := by
  induction h generalizing k with
  | done => exact absurd hk (Nat.not_lt_zero k)
  | stopped =>
    obtain rfl : k = 0 := by simpa using hk
    rfl
  | next _ hb _ ih =>
    cases k with
    | zero => rfl
    | succ k =>
      rw [List.take_succ_cons, stopSeen_cons _ hb]
      exact ih (Nat.lt_of_succ_lt_succ hk)

theorem run_runRecords_cons (r : Record σ) (rest : List (Record σ)) (w : World σ) :
    (job.runRecords setupError stopAsked (r :: rest)).run w =
      let first := (job.runRecord setupError r).run w
      if stopAsked || first.journal.stopped then
        ⟨(first.value :: rest, 1, true),
          first.journal ++ [.line ⟨.info, logTarget, "received stop message, stop run"⟩],
          first.world⟩
      else
        let others := (job.runRecords setupError stopAsked rest).run first.world
        ⟨(first.value :: others.value.1, others.value.2.1 + 1, others.value.2.2),
          first.journal ++ others.journal, others.world⟩ := by
  rw [runRecords, Task.run_bind, Task.run_listen]
  dsimp only
  split <;> simp

@[simp] theorem Round.stopped_events (round : Round σ) :
    Journal.stopped (round.events job setupError) = round.block.stops := by
  have hcons (m : Message) (j : Journal) : Journal.stopped (.message m :: j) = j.stopped := by
    simp [Journal.stopped]
  simp [Round.events, Record.told, hcons, Block.opening, Block.closing, Block.stops, Block.replies]

theorem runRecord_round (r : Record σ) (w : World σ) :
    let run := (job.runRecord setupError r).run w
    ∃ round : Round σ, round.record = r ∧ round.block.Follows job setupError.isSome r w.state ∧
      run.value = round.final job setupError ∧
      run.world.state = lastState w.state round.block.replies ∧
      run.journal.events = round.events job setupError := by
  obtain ⟨now, hv, hs, hj⟩ := job.run_runRecord setupError r w
  refine ⟨⟨r, job.block setupError r w.state, w.now, now⟩, rfl, job.follows_block .., hv, hs, ?_⟩
  rw [hj, hv]
  rfl

theorem run_runRecords (records : List (Record σ)) (w : World σ) :
    let run := (job.runRecords setupError stopAsked records).run w
    ∃ rounds rest, records = rounds.map (·.record) ++ rest ∧
      job.Rounds setupError.isSome stopAsked w.state rounds rest ∧
      run.value = (rounds.map (·.final job setupError) ++ rest, rounds.length,
        stopSeen stopAsked rounds) ∧
      run.world.state = lastState w.state (rounds.flatMap (·.block.replies)) ∧
      run.journal.events = rounds.flatMap (·.events job setupError) := by
  induction records generalizing w with
  | nil => exact ⟨[], [], rfl, .done, rfl, rfl, rfl⟩
  | cons r rest ih =>
    obtain ⟨round, rfl, hfollows, hv, hs, hj⟩ := job.runRecord_round setupError r w
    have hstop : ((job.runRecord setupError round.record).run w).journal.stopped =
        round.block.stops := by
      rw [← Journal.stopped_events, hj, Round.stopped_events]
    simp only [run_runRecords_cons, hstop, hv]
    cases hb : stopAsked || round.block.stops with
    | true =>
      exact ⟨[round], rest, rfl, .stopped hfollows hb, by simp [stopSeen, hb], by simp [hs],
        by simp [hj]⟩
    | false =>
      obtain ⟨rounds, rest, rfl, hrounds, hv', hs', hj'⟩ :=
        ih ((job.runRecord setupError round.record).run w).world
      refine ⟨round :: rounds, rest, rfl, .next hfollows hb (hs ▸ hrounds), ?_, ?_, ?_⟩
      · simp [hv', stopSeen_cons stopAsked hb]
      · simp [hs', hs]
      · simp [hj', hj]

/-- What the hooks around the whole suite are called with. -/
def suiteContext : Context σ :=
  ⟨job.environment, ""⟩

/-- The reply to one of the hooks around the whole suite. -/
def answer (hook : Hook) (s : σ) : Reply σ Unit :=
  job.hooks hook job.suiteContext s

/-- What shows of a call of one of the hooks around the whole suite. -/
def suiteActs (hook : Hook) (reply : Reply σ Unit) : Journal :=
  reply.acts job.suite (.hook hook) job.suiteContext

/-- The text that a failed setup of the suite leaves in every record. -/
def setupText? (setup : Reply σ Unit) : Option String :=
  setup.interrupt?.map fun i => s!"before_suite: {i.detail}"

theorem run_suiteHook (hook : Hook) (w : World σ) :
    let run := (job.suiteHook hook).run w
    let reply := job.answer hook w.state
    run.value = reply.result ∧ run.journal.events = job.suiteActs hook reply ∧
      run.world = { w with state := reply.state } :=
  Task.run_call ..

theorem run_setUpSuite (w : World σ) :
    let run := job.setUpSuite.run w
    let setup := job.answer .beforeSuite w.state
    run.value = setupText? setup ∧ run.journal.events = job.suiteActs .beforeSuite setup ∧
      run.world = { w with state := setup.state } := by
  intro run setup
  obtain ⟨hv, hj, hw⟩ := job.run_suiteHook .beforeSuite w
  simp only [run, setUpSuite, Task.run_bind, hv, hw, Journal.events_append, hj]
  cases hresult : setup.result <;>
    simp [setup, hresult, setupText?, Reply.interrupt?, interruptOf?]

theorem run_cleanUpSuite (w : World σ) :
    let run := job.cleanUpSuite.run w
    let cleanup := job.answer .afterSuite w.state
    run.journal.events = job.suiteActs .afterSuite cleanup ∧
      run.world = { w with state := cleanup.state } := by
  intro run cleanup
  obtain ⟨hv, hj, hw⟩ := job.run_suiteHook .afterSuite w
  simp only [run, cleanUpSuite, Task.run_bind, hv, hw, Journal.events_append, hj]
  cases cleanup.result <;> simp [cleanup]

theorem run_eq (records : List (Record σ)) (w : World σ) :
    let run := (job.run records).run w
    let setup := job.answer .beforeSuite w.state
    let main := (job.runRecords (setupText? setup) setup.stop records).run
      { w with state := setup.state }
    let cleanup := job.cleanUpSuite.run main.world
    run.value = (⟨setupText? setup, main.value.2.2, main.value.2.1⟩, main.value.1) ∧
      run.world = cleanup.world ∧
      run.journal.events = job.suiteActs .beforeSuite setup ++
        (main.journal.events ++ cleanup.journal.events) := by
  intro run setup main cleanup
  obtain ⟨hv, hj, hw⟩ := job.run_setUpSuite w
  have hstop : ((timed "before_suite" job.setUpSuite).run w).journal.stopped = setup.stop := by
    rw [← Journal.stopped_events, events_timed, hj]
    exact Reply.stopped_acts ..
  simp [run, main, cleanup, Job.run, hstop, hw, hv, hj, setup]

theorem run_run (records : List (Record σ)) (w : World σ) :
    let run := (job.run records).run w
    let setup := job.answer .beforeSuite w.state
    ∃ rounds rest, records = rounds.map (·.record) ++ rest ∧
      job.Rounds setup.interrupt?.isSome setup.stop setup.state rounds rest ∧
      let replies := rounds.flatMap (·.block.replies)
      let cleanup := job.answer .afterSuite (lastState setup.state replies)
      run.value = (⟨setupText? setup, stopSeen setup.stop rounds, rounds.length⟩,
        rounds.map (·.final job (setupText? setup)) ++ rest) ∧
      run.world.state = cleanup.state ∧
      run.journal.events = job.suiteActs .beforeSuite setup ++
        (rounds.flatMap (·.events job (setupText? setup)) ++
          job.suiteActs .afterSuite cleanup) := by
  intro run setup
  obtain ⟨hv, hw, hj⟩ := job.run_eq records w
  obtain ⟨rounds, rest, hrecords, hrounds, hv₁, hs₁, hj₁⟩ :=
    job.run_runRecords (setupText? setup) setup.stop records { w with state := setup.state }
  obtain ⟨hj₂, hw₂⟩ := job.run_cleanUpSuite
    ((job.runRecords (setupText? setup) setup.stop records).run
      { w with state := setup.state }).world
  rw [setupText?, Option.isSome_map] at hrounds
  refine ⟨rounds, rest, hrecords, hrounds, ?_, ?_, ?_⟩
  · rw [hv, hv₁]
  · rw [hw, hw₂, hs₁]
  · rw [hj, hj₁, hj₂, hs₁]

end Testbed.Suite.Job

namespace Testbed.Suite

variable {σ : Type}

theorem run_runWith (suite : String) (hooks : Hooks σ) (delay : Nat) (e : Environment σ)
    (records : List (Record σ)) (w : World σ) :
    let run := (Job.run ⟨suite, hooks, e.markUsed, delay⟩ records).run w
    (runWith suite hooks delay e records).run w =
      ⟨(run.value.1, run.value.2, e.markUsed), .used suite :: run.journal, run.world⟩ := by
  simp [runWith]

/-- The rounds of a run with a suite object at hand, what they make of the records, and what shows
of them. -/
theorem rounds_runWith (suite : String) (hooks : Hooks σ) (delay : Nat) (e : Environment σ)
    (records : List (Record σ)) (w : World σ) :
    let job : Job σ := ⟨suite, hooks, e.markUsed, delay⟩
    let run := (runWith suite hooks delay e records).run w
    let setup := job.answer .beforeSuite w.state
    ∃ rounds rest, records = rounds.map (·.record) ++ rest ∧
      job.Rounds setup.interrupt?.isSome setup.stop setup.state rounds rest ∧
      run.value.2.1 = rounds.map (·.final job (Job.setupText? setup)) ++ rest ∧
      let cleanup := job.answer .afterSuite
        (Reply.lastState setup.state (rounds.flatMap (·.block.replies)))
      run.journal.events = .used suite :: (job.suiteActs .beforeSuite setup ++
        (rounds.flatMap (·.events job (Job.setupText? setup)) ++
          job.suiteActs .afterSuite cleanup)) := by
  intro job run setup
  obtain ⟨rounds, rest, hrecords, hrounds, hv, -, hj⟩ := job.run_run records w
  refine ⟨rounds, rest, hrecords, hrounds, ?_, ?_⟩
  · simp only [run, run_runWith]
    rw [hv]
  · simp only [run, run_runWith]
    exact congrArg (Entry.used suite :: ·) hj

/-- A run with a fresh suite object makes the object and runs with it. -/
theorem run_eq (suite : Suite σ) (delay : Nat) (e : Environment σ) (records : List (Record σ))
    (w : World σ) :
    let made := suite.create w.state
    let run := (runWith suite.name made.1 delay e records).run { w with state := made.2 }
    (suite.run delay e records).run w =
      ⟨run.value, .created suite.name :: run.journal, run.world⟩ := rfl

end Testbed.Suite
