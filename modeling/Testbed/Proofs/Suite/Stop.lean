import Mathlib.Data.List.Basic
import Testbed.Proofs.Suite.Protocol
import Testbed.Proofs.Suite.Verdict

/-! # Requests to stop

A request to stop is looked at in one place only, at the end of each record.
Behind a request from a record there is the rest of its block and the cleanup of
the suite. A request from the setup of the suite is seen too late for the first
record, which is still run.
-/

namespace Testbed

variable {σ : Type}

namespace Journal

/-- What there is behind the first request to stop. -/
def afterStop (j : Journal) : Journal :=
  (j.dropWhile (· ≠ .stop)).drop 1

/-- The identifiers of the records that are set to running, in order. -/
def started (j : Journal) : List String :=
  (j.recordMessages.filter (·.status = .running)).map (·.id)

@[simp] theorem afterStop_used (suite : String) (j : Journal) :
    afterStop (.used suite :: j) = afterStop j := rfl

theorem afterStop_append (a b : Journal) :
    afterStop (a ++ b) = if a.stopped then a.afterStop ++ b else b.afterStop := by
  induction a with
  | nil => rfl
  | cons entry a ih =>
    cases entry with
    | stop => rfl
    | _ => exact ih

theorem afterStop_suffix (j : Journal) : j.afterStop <:+ j :=
  (List.drop_suffix ..).trans (List.dropWhile_suffix _)

/-- The log lines do not matter for what is behind a request. -/
theorem afterStop_events (j : Journal) : j.events.afterStop = j.afterStop.events := by
  induction j with
  | nil => rfl
  | cons entry j ih =>
    cases entry with
    | stop => rfl
    | _ => exact ih

@[simp] theorem started_used (suite : String) (j : Journal) :
    started (.used suite :: j) = started j := rfl

@[simp] theorem started_append (a b : Journal) : started (a ++ b) = a.started ++ b.started := by
  simp [started]

theorem started_events (j : Journal) : j.events.started = j.started := by
  rw [started, recordMessages_events, started]

theorem started_flatMap {β : Type} (f : β → Journal) (xs : List β) :
    started (xs.flatMap f) = xs.flatMap fun x => (f x).started := by
  simp only [started, recordMessages_flatMap, List.filter_flatMap, List.map_flatMap]

theorem started_eq_nil_of_suffix {a b : Journal} (h : a <:+ b) (hb : b.started = []) :
    a.started = [] := by
  obtain ⟨front, rfl⟩ := h
  rw [started_append, List.append_eq_nil_iff] at hb
  exact hb.2

theorem acts_suffix {a b : Journal} (h : a <:+ b) : a.acts <:+ b.acts :=
  h.filter _

end Journal

namespace Suite.Job

open Reply

variable {job : Job σ} {setup : Reply σ Unit} {stopAsked : Bool} {s : σ} {round : Round σ}
  {rounds : List (Round σ)} {rest : List (Record σ)}

@[simp] theorem started_suiteActs (hook : Hook) (reply : Reply σ Unit) :
    Journal.started (job.suiteActs hook reply) = [] := by
  simp [Journal.started]

@[simp] theorem afterStop_suiteActs (hook : Hook) (reply : Reply σ Unit) :
    Journal.afterStop (job.suiteActs hook reply) = [] := by
  cases h : reply.stop <;> simp [suiteActs, Reply.acts, Journal.afterStop, h]

/-- A record is set to running at the beginning of its round, and never again. -/
theorem Round.started_events (h : round.block.Follows job setup.interrupt?.isSome round.record s) :
    let events := round.events job (setupText? setup)
    events.started = [round.record.id] ∧ events.afterStop.started = [] := by
  intro events
  let final := round.final job (setupText? setup)
  let later : Journal := round.block.opening job round.record ++
    final.told round.ended :: round.block.closing job round.record
  have hfinal : (final.message round.ended).status ≠ .running := (verdict_of_follows h).ne_running
  have hlater : later.started = [] := by
    simp [later, Journal.started, hfinal]
  constructor
  · exact (Journal.started_append [_] later).trans (congrArg (_ ++ ·) hlater)
  · exact Journal.started_eq_nil_of_suffix (Journal.afterStop_suffix later) hlater

theorem Rounds.started_events (h : job.Rounds setup.interrupt?.isSome stopAsked s rounds rest) :
    Journal.started (rounds.flatMap (·.events job (setupText? setup))) =
      rounds.map (·.record.id) := by
  rw [Journal.started_flatMap, ← List.flatMap_singleton' (rounds.map _), List.flatMap_map]
  refine List.flatMap_congr fun round hround => ?_
  obtain ⟨s, hfollows⟩ := h.follows hround
  exact (Round.started_events hfollows).1

/-- Behind a request from a round there is no further round, and only a part of that one. -/
theorem Rounds.afterStop_events (h : job.Rounds setup.interrupt?.isSome false s rounds rest) :
    let events (round : Round σ) := round.events job (setupText? setup)
    let after := Journal.afterStop (rounds.flatMap events)
    after.started = [] ∧ after <:+ rounds.getLast?.toList.flatMap events := by
  intro events
  induction h with
  | done => exact ⟨rfl, List.suffix_rfl⟩
  | stopped hfollows =>
    rw [List.flatMap_singleton]
    exact ⟨(Round.started_events hfollows).2, by simpa using Journal.afterStop_suffix _⟩
  | @next s round rounds rest _ hstop _ ih =>
    have hquiet : Journal.stopped (events round) = false := by
      simpa [events] using hstop
    rw [List.flatMap_cons, Journal.afterStop_append, hquiet]
    refine ⟨ih.1, ih.2.trans ?_⟩
    cases rounds with
    | nil => exact List.nil_suffix
    | cons => exact List.suffix_rfl

/-- What follows the rounds of a run is its cleanup, in which no record is started. -/
theorem Rounds.afterStop_append (h : job.Rounds setup.interrupt?.isSome false s rounds rest)
    (cleanup : Reply σ Unit) :
    let events (round : Round σ) := round.events job (setupText? setup)
    let ending := job.suiteActs .afterSuite cleanup
    let after := Journal.afterStop (rounds.flatMap events ++ ending)
    after.started = [] ∧ after <:+ rounds.getLast?.toList.flatMap events ++ ending := by
  intro events ending
  obtain ⟨hstarted, hsuffix⟩ := h.afterStop_events
  rw [Journal.afterStop_append]
  split
  · refine ⟨?_, ?_⟩
    · rw [Journal.started_append, hstarted, started_suiteActs, List.append_nil]
    · obtain ⟨front, hfront⟩ := hsuffix
      exact ⟨front, by rw [← hfront, List.append_assoc]⟩
  · rw [afterStop_suiteActs]
    exact ⟨rfl, List.nil_suffix⟩

/-- A request from before the first record lets one record be run. -/
theorem Rounds.eq_take {setupFailed : Bool} (h : job.Rounds setupFailed true s rounds rest) :
    rounds.map (·.record) = (rounds.map (·.record) ++ rest).take 1 ∧
      rounds.getLast?.toList = rounds := by
  cases h with
  | done => exact ⟨rfl, rfl⟩
  | stopped => exact ⟨rfl, rfl⟩
  | next _ hstop => cases hstop

end Suite.Job

namespace Suite

open Job Reply

variable (suite : String) (hooks : Hooks σ) (delay : Nat) (e : Environment σ)
  (records : List (Record σ)) (w : World σ)

theorem events_runWith :
    let job : Job σ := ⟨suite, hooks, e.markUsed, delay⟩
    let run := (runWith suite hooks delay e records).run w
    let setup := job.answer .beforeSuite w.state
    ∃ rounds rest, records = rounds.map (·.record) ++ rest ∧
      job.Rounds setup.interrupt?.isSome setup.stop setup.state rounds rest ∧
      let cleanup := job.answer .afterSuite
        (lastState setup.state (rounds.flatMap (·.block.replies)))
      let main : Journal := rounds.flatMap (·.events job (setupText? setup)) ++
        job.suiteActs .afterSuite cleanup
      run.journal.events = .used suite :: (job.suiteActs .beforeSuite setup ++ main) ∧
        run.journal.afterStop.events = if setup.stop then main else main.afterStop := by
  intro job run setup
  obtain ⟨rounds, rest, hrecords, hrounds, -, hevents⟩ :=
    rounds_runWith suite hooks delay e records w
  refine ⟨rounds, rest, hrecords, hrounds, hevents, ?_⟩
  rw [← Journal.afterStop_events, hevents, Journal.afterStop_used, Journal.afterStop_append,
    afterStop_suiteActs, suiteActs, Reply.stopped_acts, List.nil_append]

/-- If the setup of the suite asks to stop, the first record is started behind the request. -/
theorem started_afterStop_of_setup
    (hstop : (Job.answer ⟨suite, hooks, e.markUsed, delay⟩ .beforeSuite w.state).stop = true) :
    ((runWith suite hooks delay e records).run w).journal.afterStop.started =
      (records.take 1).map (·.id) := by
  obtain ⟨rounds, rest, hrecords, hrounds, -, hafter⟩ :=
    events_runWith suite hooks delay e records w
  rw [← Journal.started_events, hafter, if_pos hstop, Journal.started_append,
    hrounds.started_events, started_suiteActs, List.append_nil]
  rw [hstop] at hrounds
  rw [hrecords, ← hrounds.eq_take.1, List.map_map]
  rfl

/-- No record is started behind a request to stop, unless the request comes from the setup of the
suite: then the first record is still run, and no other. What is still called is the rest of the
block of the last record that was started, and the cleanup of the suite. -/
theorem runWith_after_stop :
    let job : Job σ := ⟨suite, hooks, e.markUsed, delay⟩
    let run := (runWith suite hooks delay e records).run w
    let setup := job.answer .beforeSuite w.state
    let after := run.journal.afterStop
    ∃ rounds rest, records = rounds.map (·.record) ++ rest ∧
      job.Rounds setup.interrupt?.isSome setup.stop setup.state rounds rest ∧
      run.journal.started = rounds.map (·.record.id) ∧
      (setup.stop = false → after.started = []) ∧
      (setup.stop = true → rounds.map (·.record) = records.take 1 ∧
        after.started = (records.take 1).map (·.id)) ∧
      let cleanup := job.answer .afterSuite
        (lastState setup.state (rounds.flatMap (·.block.replies)))
      after.acts <:+
        (rounds.getLast?.toList.flatMap fun round => round.block.acts job round.record) ++
          job.suiteActs .afterSuite cleanup := by
  intro job run setup after
  obtain ⟨rounds, rest, hrecords, hrounds, hevents, hafter⟩ :=
    events_runWith suite hooks delay e records w
  refine ⟨rounds, rest, hrecords, hrounds, ?_, ?_, ?_, ?_⟩
  · rw [← Journal.started_events, hevents, Journal.started_used, Journal.started_append,
      started_suiteActs, Journal.started_append, hrounds.started_events, started_suiteActs,
      List.append_nil, List.nil_append]
  · intro hstop
    rw [hstop] at hrounds
    rw [← Journal.started_events, hafter, if_neg (by simp [setup, job, hstop])]
    exact (hrounds.afterStop_append _).1
  · intro hstop
    refine ⟨?_, started_afterStop_of_setup suite hooks delay e records w hstop⟩
    rw [hstop] at hrounds
    rw [hrecords]
    exact hrounds.eq_take.1
  · intro cleanup
    have hsuffix : after.events <:+ rounds.getLast?.toList.flatMap
        (·.events job (setupText? setup)) ++ job.suiteActs .afterSuite cleanup := by
      rw [hafter]
      cases hstop : setup.stop with
      | true =>
        rw [hstop] at hrounds
        rw [if_pos rfl]
        simp only [hrounds.eq_take.2]
        exact List.suffix_rfl
      | false =>
        rw [hstop] at hrounds
        rw [if_neg Bool.false_ne_true]
        exact (hrounds.afterStop_append _).2
    have hacts := Journal.acts_suffix hsuffix
    rw [Journal.acts_events] at hacts
    simpa [Journal.acts_flatMap, Round.acts_events] using hacts

/-- The suite asks to stop when it is set up, and its only case is started all the same. -/
theorem first_case_started_after_stop :
    ¬ ∀ (suite : String) (hooks : Hooks Unit) (delay : Nat) (e : Environment Unit)
        (records : List (Record Unit)) (w : World Unit),
      ((runWith suite hooks delay e records).run w).journal.afterStop.started = [] := by
  intro hnone
  let hooks : Hooks Unit := fun
    | .beforeSuite, _ => .requestStop
    | _, _ => pure ()
  let r : Record Unit := { id := "a.x", testCase := { suiteName := "a", name := "x" } }
  let e : Environment Unit := { name := "local", stage := .connected, nodes := [] }
  have hfirst := started_afterStop_of_setup "a" hooks 0 e [r] ⟨(), 0⟩ rfl
  rw [hnone] at hfirst
  exact absurd hfirst (by decide)

end Suite

end Testbed
