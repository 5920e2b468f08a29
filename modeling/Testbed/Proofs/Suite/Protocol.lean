import Testbed.Proofs.Suite.Rounds

/-! # The order of calls

What a suite run calls, and in which order: its setup, the blocks of records up
to a stop, and its cleanup. No call of it sees a new environment.
-/

namespace Testbed

variable {σ : Type}

@[simp] theorem Journal.acts_told (r : Record σ) (now : Nat) (j : Journal) :
    acts (r.told now :: j) = acts j := rfl

@[simp] theorem Reply.acts_acts (suite : String) (target : Call.Target) (ctx : Context σ)
    (reply : Reply σ Unit) :
    Journal.acts (reply.acts suite target ctx) = reply.acts suite target ctx := by
  cases h : reply.stop <;> simp [Reply.acts, Journal.acts, h, Entry.isLine, Entry.isMessage]

theorem Reply.calls_acts (suite : String) (target : Call.Target) (ctx : Context σ)
    (reply : Reply σ Unit) :
    Journal.calls (reply.acts suite target ctx) =
      [⟨suite, target, ctx.caseName, ctx.environment.isNew, reply.interrupt?⟩] := by
  cases h : reply.stop <;> simp [Reply.acts, Journal.calls, h, Entry.call?]

namespace Suite.Job

open Reply

variable (job : Job σ)

@[simp] theorem Block.acts_opening (b : Block σ) (r : Record σ) :
    Journal.acts (b.opening job r) = b.opening job r := by
  simp [Block.opening, Journal.acts_flatMap]

@[simp] theorem Block.acts_closing (b : Block σ) (r : Record σ) :
    Journal.acts (b.closing job r) = b.closing job r := by
  simp [Block.closing, Journal.acts_flatMap]

theorem Round.acts_events (setupError : Option String) (round : Round σ) :
    Journal.acts (round.events job setupError) = round.block.acts job round.record := by
  simp [Round.events, Block.acts]

@[simp] theorem acts_suiteActs (hook : Hook) (reply : Reply σ Unit) :
    Journal.acts (job.suiteActs hook reply) = job.suiteActs hook reply :=
  Reply.acts_acts ..

theorem isNew_suiteActs {hook : Hook} {reply : Reply σ Unit} {c : Call}
    (hc : c ∈ Journal.calls (job.suiteActs hook reply)) : c.isNew = job.environment.isNew := by
  rw [suiteActs, Reply.calls_acts, List.mem_singleton] at hc
  rw [hc]
  rfl

theorem Block.isNew_calls (b : Block σ) (r : Record σ) {c : Call}
    (hc : c ∈ Journal.calls (b.acts job r)) : c.isNew = job.environment.isNew := by
  simp only [Block.acts, Block.opening, Block.closing, Journal.calls_append,
    Journal.calls_flatMap, Reply.calls_acts, List.mem_append, List.mem_flatMap,
    List.mem_singleton] at hc
  obtain (⟨reply, -, rfl⟩ | ⟨reply, -, rfl⟩) | ⟨reply, -, rfl⟩ := hc <;> rfl

end Suite.Job

namespace Suite

open Reply

/-- The rounds of a suite run, what it hands back, and all that it does. -/
theorem acts_runWith (suite : String) (hooks : Hooks σ) (delay : Nat) (e : Environment σ)
    (records : List (Record σ)) (w : World σ) :
    let job : Job σ := ⟨suite, hooks, e.markUsed, delay⟩
    let run := (runWith suite hooks delay e records).run w
    let setup := job.answer .beforeSuite w.state
    ∃ rounds rest, records = rounds.map (·.record) ++ rest ∧
      job.Rounds setup.interrupt?.isSome setup.stop setup.state rounds rest ∧
      let cleanup := job.answer .afterSuite
        (lastState setup.state (rounds.flatMap (·.block.replies)))
      run.value.1 = ⟨Job.setupText? setup, Job.stopSeen setup.stop rounds, rounds.length⟩ ∧
      run.value.2.1 = rounds.map (·.final job (Job.setupText? setup)) ++ rest ∧
      run.world.state = cleanup.state ∧
      run.journal.acts = .used suite :: (job.suiteActs .beforeSuite setup ++
        (rounds.flatMap (fun round => round.block.acts job round.record) ++
          job.suiteActs .afterSuite cleanup)) := by
  intro job run setup
  obtain ⟨rounds, rest, hrecords, hrounds, hvalue, hstate, hevents⟩ := job.run_run records w
  have hrun := run_runWith suite hooks delay e records w
  have hacts := congrArg Journal.acts hevents
  simp only [Journal.acts_events, Journal.acts_append, Journal.acts_flatMap, Job.acts_suiteActs,
    Job.Round.acts_events] at hacts
  refine ⟨rounds, rest, hrecords, hrounds, ?_, ?_, ?_, ?_⟩
  · simp only [run, hrun]
    rw [hvalue]
  · simp only [run, hrun]
    rw [hvalue]
  · simp only [run, hrun]
    exact hstate
  · simp only [run, hrun, Journal.acts_used]
    exact congrArg (Entry.used suite :: ·) hacts

/-- A suite run marks its environment as used, sets the suite up, gives each record of a prefix its
block, and cleans up. The prefix ends with the first record at the end of which a stop has been
asked for. -/
theorem runWith_protocol (suite : String) (hooks : Hooks σ) (delay : Nat) (e : Environment σ)
    (records : List (Record σ)) (w : World σ) :
    let job : Job σ := ⟨suite, hooks, e.markUsed, delay⟩
    let run := (runWith suite hooks delay e records).run w
    let setup := job.answer .beforeSuite w.state
    ∃ rounds rest, records = rounds.map (·.record) ++ rest ∧
      job.Rounds setup.interrupt?.isSome setup.stop setup.state rounds rest ∧
      (rest ≠ [] → Job.stopSeen setup.stop rounds = true) ∧
      (∀ k < rounds.length, Job.stopSeen setup.stop (rounds.take k) = false) ∧
      run.value.1.stopped = Job.stopSeen setup.stop rounds ∧
      run.value.1.casesRun = rounds.length ∧
      (∀ c ∈ run.journal.calls, c.isNew = false) ∧
      let cleanup := job.answer .afterSuite
        (lastState setup.state (rounds.flatMap (·.block.replies)))
      run.journal.acts = .used suite :: (job.suiteActs .beforeSuite setup ++
        (rounds.flatMap (fun round => round.block.acts job round.record) ++
          job.suiteActs .afterSuite cleanup)) := by
  intro job run setup
  obtain ⟨rounds, rest, hrecords, hrounds, hv, -, hj⟩ := job.run_run records w
  have hvalue : run.value.1 = ((job.run records).run w).value.1 := by simp [run, run_runWith, job]
  have hacts : run.journal.acts = .used suite :: ((job.run records).run w).journal.events.acts := by
    rw [Journal.acts_events]
    simp [run, run_runWith, job]
  rw [hj] at hacts
  simp only [Journal.acts_append, Journal.acts_flatMap, Job.acts_suiteActs,
    Job.Round.acts_events] at hacts
  refine ⟨rounds, rest, hrecords, hrounds, hrounds.stopSeen_of_ne_nil,
    fun k hk => hrounds.stopSeen_take hk, ?_, ?_, ?_, hacts⟩
  · rw [hvalue, hv]
  · rw [hvalue, hv]
  · intro c hc
    rw [← Journal.calls_acts, hacts] at hc
    simp only [Journal.calls_used, Journal.calls_append, Journal.calls_flatMap,
      List.mem_append, List.mem_flatMap] at hc
    rcases hc with hc | ⟨round, -, hc⟩ | hc
    · exact job.isNew_suiteActs hc
    · exact round.block.isNew_calls job round.record hc
    · exact job.isNew_suiteActs hc

end Suite

end Testbed
