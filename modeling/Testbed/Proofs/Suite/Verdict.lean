import Testbed.Proofs.Record.Log
import Testbed.Proofs.Suite.Rounds

/-! # Verdicts

What a record ends as is told by three things only: how the setup of the suite
came out, how the tries of the setup of its case came out, and the last try of
its body. All else that is called for it leaves no trace in the record.
-/

namespace Testbed

variable {σ : Type}

/-- The status and the text that the last try of a body leads to. -/
inductive LastTry (ignoreFailure : Bool) : Option Interrupt → Status → String → Prop where
  | passed : LastTry ignoreFailure none .passed ""
  | skipped (detail : String) :
      LastTry ignoreFailure (some (.skipped detail)) .skipped ("skipped: " ++ detail)
  | notRun (detail : String) :
      LastTry ignoreFailure (some (.notRun detail)) .notRun ("notrun: " ++ detail)
  | warned (detail : String) :
      LastTry ignoreFailure (some (.passedWithWarning detail)) .passed ("warning: " ++ detail)
  | ignored (detail : String) :
      ignoreFailure = true → LastTry ignoreFailure (some (.failed detail)) .attempted detail
  | failed (detail : String) :
      ignoreFailure = false →
      LastTry ignoreFailure (some (.failed detail)) .failed ("failed: " ++ detail)

theorem lastTry_verdict (ignoreFailure : Bool) (i : Interrupt) :
    let verdict := i.verdict ignoreFailure ""
    LastTry ignoreFailure (some i) verdict.1 verdict.2 := by
  obtain ⟨kind, detail⟩ := i
  cases kind with
  | skipped =>
    simpa [Interrupt.verdict, Interrupt.skipped, toString] using LastTry.skipped detail
  | notRun =>
    simpa [Interrupt.verdict, Interrupt.notRun, toString] using LastTry.notRun detail
  | passedWithWarning =>
    simpa [Interrupt.verdict, Interrupt.passedWithWarning, toString] using LastTry.warned detail
  | failed =>
    cases ignoreFailure with
    | true =>
      simpa [Interrupt.verdict, Interrupt.failed, toString] using LastTry.ignored detail rfl
    | false =>
      simpa [Interrupt.verdict, Interrupt.failed, toString] using LastTry.failed detail rfl

theorem LastTry.ne_running {ignoreFailure : Bool} {last : Option Interrupt} {status : Status}
    {text : String} (h : LastTry ignoreFailure last status text) : status ≠ .running := by
  cases h <;> decide

namespace Tried

variable {α : Type} {act : Action σ α} {s : σ} {n : Nat} {replies : List (Reply σ α)}

theorem exists_last (h : Tried act n s replies) : ∃ last, replies.getLast? = some last :=
  ⟨_, List.getLast?_eq_some_getLast h.ne_nil⟩

theorem all_failed (h : Tried act n s replies) {i : Interrupt}
    (hi : Reply.lastInterrupt? replies = some i) : ∀ reply ∈ replies, reply.interrupt? ≠ none := by
  intro reply hr
  rw [← List.dropLast_concat_getLast h.ne_nil, List.mem_append, List.mem_singleton] at hr
  rcases hr with hr | rfl
  · exact h.failed_before reply hr
  · rw [Reply.lastInterrupt?, List.getLast?_eq_some_getLast h.ne_nil, Option.bind_some] at hi
    simp [hi]

end Tried

namespace Suite.Job

open Reply

/-- The status and the text that a block leads to when the setup of the suite has come out as told.
A failed setup of the suite, or of the case in all its tries, skips the record. -/
inductive Verdict (setup : Option Interrupt) (ignoreFailure : Bool) (b : Block σ) :
    Status → String → Prop where
  | suiteSetup {i : Interrupt} :
      setup = some i → Verdict setup ignoreFailure b .skipped ("before_suite: " ++ i.detail)
  | caseSetup {last : Reply σ Unit} {i : Interrupt} :
      setup = none →
      (∀ reply ∈ b.before, reply.interrupt? ≠ none) →
      b.before.getLast? = some last →
      last.interrupt? = some i →
      Verdict setup ignoreFailure b .skipped ("before_case: " ++ i.detail)
  | body {reply last : Reply σ Unit} {status : Status} {text : String} :
      setup = none →
      reply ∈ b.before →
      reply.interrupt? = none →
      b.body.getLast? = some last →
      LastTry ignoreFailure last.interrupt? status text →
      Verdict setup ignoreFailure b status text

variable {setup : Option Interrupt} {job : Job σ} {b : Block σ} {r : Record σ} {s : σ}

theorem Verdict.ne_running {ignoreFailure : Bool} {status : Status} {text : String}
    (h : Verdict setup ignoreFailure b status text) : status ≠ .running := by
  cases h with
  | suiteSetup => decide
  | caseSetup => decide
  | body _ _ _ _ hlast => exact hlast.ne_running

theorem verdict_of_follows (h : b.Follows job setup.isSome r s) :
    let verdict := verdict (setup.map fun i => s!"before_suite: {i.detail}") r b
    Verdict setup r.ignoreFailure b verdict.1 verdict.2 := by
  cases setup with
  | some i => exact .suiteSetup rfl
  | none =>
    have hbefore : Tried _ _ _ b.before := h.before
    have hbody := h.body
    obtain ⟨lastBefore, hlastBefore⟩ := hbefore.exists_last
    cases hi : lastInterrupt? b.before with
    | some i =>
      simp only [Option.map_none, verdict, hi]
      refine .caseSetup rfl (hbefore.all_failed hi) hlastBefore ?_
      simpa [lastInterrupt?, hlastBefore] using hi
    | none =>
      rw [if_neg (by simp [hi])] at hbody
      obtain ⟨last, hlast⟩ := hbody.exists_last
      refine .body rfl (List.mem_of_getLast? hlastBefore) ?_ hlast ?_
      · simpa [lastInterrupt?, hlastBefore] using hi
      · have hlasti : lastInterrupt? b.body = last.interrupt? := by simp [lastInterrupt?, hlast]
        simp only [Option.map_none, verdict, hi, hlasti]
        cases last.interrupt? with
        | none => exact .passed
        | some i => exact lastTry_verdict ..

theorem Rounds.follows {setupFailed stopAsked : Bool} {rounds : List (Round σ)}
    {rest : List (Record σ)} (h : job.Rounds setupFailed stopAsked s rounds rest)
    {round : Round σ} (hr : round ∈ rounds) :
    ∃ s, round.block.Follows job setupFailed round.record s := by
  induction h with
  | done => exact absurd hr List.not_mem_nil
  | stopped hfollows =>
    obtain rfl := List.mem_singleton.mp hr
    exact ⟨_, hfollows⟩
  | next hfollows _ _ ih =>
    rcases List.mem_cons.mp hr with rfl | hr
    · exact ⟨_, hfollows⟩
    · exact ih hr

end Suite.Job

@[simp] theorem Journal.recordMessages_told (r : Record σ) (now : Nat) (j : Journal) :
    recordMessages (r.told now :: j) = r.message now :: recordMessages j := rfl

@[simp] theorem Reply.recordMessages_acts (suite : String) (target : Call.Target)
    (ctx : Context σ) (reply : Reply σ Unit) :
    Journal.recordMessages (reply.acts suite target ctx) = [] := by
  cases h : reply.stop <;>
    simp [Reply.acts, Journal.recordMessages, Journal.messages, h, Entry.message?]

namespace Suite.Job

variable (job : Job σ) (setupError : Option String) (round : Round σ)

@[simp] theorem Block.recordMessages_opening (b : Block σ) (r : Record σ) :
    Journal.recordMessages (b.opening job r) = [] := by
  simp [Block.opening, Journal.recordMessages_flatMap]

@[simp] theorem Block.recordMessages_closing (b : Block σ) (r : Record σ) :
    Journal.recordMessages (b.closing job r) = [] := by
  simp [Block.closing, Journal.recordMessages_flatMap]

@[simp] theorem recordMessages_suiteActs (hook : Hook) (reply : Reply σ Unit) :
    Journal.recordMessages (job.suiteActs hook reply) = [] :=
  Reply.recordMessages_acts ..

theorem Round.recordMessages_events :
    Journal.recordMessages (round.events job setupError) =
      [(round.started job).message round.began,
        (round.final job setupError).message round.ended] := by
  simp [Round.events]

/-- The result of a round keeps all of the record but its environment, status, log and timer. -/
theorem Round.final_eq :
    let verdict := verdict setupError round.record round.block
    ∃ timer, round.final job setupError =
      { round.record with
        environmentName := job.environment.name
        environmentFacts := job.environment.facts
        status := verdict.1
        log := joined [round.record.log, verdict.2]
        timer } := by
  refine ⟨(round.final job setupError).timer, ?_⟩
  rw [← appendLine_eq]
  rfl

end Suite.Job

namespace Suite

open Job Reply

/-- In a suite run each record of a prefix is told of twice, when it is running and when it has its
verdict, and the records behind the prefix stay as they are. -/
theorem runWith_verdicts (suite : String) (hooks : Hooks σ) (delay : Nat) (e : Environment σ)
    (records : List (Record σ)) (w : World σ) :
    let job : Job σ := ⟨suite, hooks, e.markUsed, delay⟩
    let run := (runWith suite hooks delay e records).run w
    let setup := job.answer .beforeSuite w.state
    let final (round : Round σ) := round.final job (setupText? setup)
    ∃ rounds rest, records = rounds.map (·.record) ++ rest ∧
      job.Rounds setup.interrupt?.isSome setup.stop setup.state rounds rest ∧
      run.value.2.1 = rounds.map final ++ rest ∧
      run.journal.recordMessages.map (fun m => (m.id, m.status)) = rounds.flatMap (fun round =>
        [(round.record.id, .running), (round.record.id, (final round).status)]) ∧
      ∀ round ∈ rounds, ∃ status text timer,
        Verdict setup.interrupt? round.record.ignoreFailure round.block status text ∧
        status ≠ .running ∧
        final round =
          { round.record with
            environmentName := e.name
            environmentFacts := e.facts
            status
            log := joined [round.record.log, text]
            timer } := by
  intro job run setup final
  obtain ⟨rounds, rest, hrecords, hrounds, hv, -, hj⟩ := job.run_run records w
  refine ⟨rounds, rest, hrecords, hrounds, ?_, ?_, ?_⟩
  · simp only [run, run_runWith]
    rw [hv]
  · simp only [run, run_runWith, Journal.recordMessages_used]
    rw [← Journal.recordMessages_events, hj]
    simp only [Journal.recordMessages_append, Journal.recordMessages_flatMap,
      Round.recordMessages_events, recordMessages_suiteActs, List.nil_append, List.append_nil,
      List.map_flatMap]
    rfl
  · intro round hround
    obtain ⟨s, hfollows⟩ := hrounds.follows hround
    have hverdict := verdict_of_follows hfollows
    obtain ⟨timer, hfinal⟩ := round.final_eq job (setupText? setup)
    exact ⟨_, _, timer, hverdict, hverdict.ne_running, hfinal⟩

/-- Hooks of which the setup of the suite comes out as told. The setup of the case `b` fails, each
time otherwise, and every cleanup fails; the one of the case `g` asks to stop. -/
def grumbling (setup : Except Interrupt Unit) : Hooks Nat
  | .beforeSuite, _ => fun n => ⟨setup, false, [], n⟩
  | .beforeCase, ctx => fun n =>
    if ctx.caseName = "b" then ⟨.error (.skipped s!"no net {n}"), false, [], n + 1⟩
    else ⟨.ok (), false, [], n⟩
  | .afterCase, ctx => fun n => ⟨.error (.failed "unheard"), ctx.caseName = "g", [], n⟩
  | .afterSuite, _ => .raise (.failed "unheard")

/-- The record of a case with a body that ends as told when the state has become the number, and
fails before. -/
def ending (name log : String) (last : Except Interrupt Unit) (ignoreFailure : Bool := false) :
    Record Nat where
  id := name
  testCase := {
    suiteName := "a"
    name
    body := fun _ n => ⟨if n < 2 then .error (.failed "not yet") else last, false, [], n + 1⟩ }
  retries := 2
  ignoreFailure
  log

/-- One record for each way to end, and one behind a request to stop. -/
def endings : List (Record Nat) := [
  ending "a" "old" (.ok ()), ending "b" "" (.ok ()), ending "c" "" (.error (.skipped "no gpu")),
  ending "d" "" (.error (.notRun "later")), ending "e" "" (.error (.passedWithWarning "slow")),
  ending "f" "" (.error (.failed "boom")) true, ending "g" "old" (.error (.failed "boom")),
  ending "h" "old" (.ok ())]

theorem runWith_verdicts_endings :
    let e : Environment Nat := { name := "local", stage := .connected, nodes := [] }
    let run (setup : Except Interrupt Unit) :=
      (runWith "a" (grumbling setup) 0 e endings).run ⟨0, 0⟩
    let ends (setup : Except Interrupt Unit) :=
      (run setup).value.2.1.map fun r => (r.id, r.status, r.log)
    let final (round : Round Nat) := round.final ⟨"a", grumbling (.ok ()), e.markUsed, 0⟩ none
    ends (.ok ()) = [
        ("a", .passed, "old"), ("b", .skipped, "before_case: no net 5"),
        ("c", .skipped, "skipped: no gpu"), ("d", .notRun, "notrun: later"),
        ("e", .passed, "warning: slow"), ("f", .attempted, "boom"),
        ("g", .failed, "old\nfailed: boom"), ("h", .notRun, "old")] ∧
      ends (.error (.failed "no disk")) = [
        ("a", .skipped, "old\nbefore_suite: no disk"), ("b", .skipped, "before_suite: no disk"),
        ("c", .skipped, "before_suite: no disk"), ("d", .skipped, "before_suite: no disk"),
        ("e", .skipped, "before_suite: no disk"), ("f", .skipped, "before_suite: no disk"),
        ("g", .skipped, "old\nbefore_suite: no disk"), ("h", .notRun, "old")] ∧
      ∃ (rounds : List (Round Nat)) (rest : List (Record Nat)), rounds.length = 7 ∧
        endings = rounds.map (·.record) ++ rest ∧
        (run (.ok ())).value.2.1 = rounds.map final ++ rest ∧
        ∀ round ∈ rounds, ∃ status text,
          Verdict none round.record.ignoreFailure round.block status text ∧
          (final round).status = status ∧ (final round).log = joined [round.record.log, text] := by
  intro e run ends final
  obtain ⟨rounds, rest, hrecords, -, hvalue, htold, hverdicts⟩ :=
    runWith_verdicts "a" (grumbling (.ok ())) 0 e endings ⟨0, 0⟩
  -- There are two messages for each round.
  have hcount : (run (.ok ())).journal.recordMessages.length = 14 := by decide +kernel
  have hlength := congrArg List.length htold
  rw [List.length_map, hcount] at hlength
  refine ⟨by decide +kernel, by decide +kernel, rounds, rest, ?_, hrecords, hvalue, ?_⟩
  · simp only [List.length_flatMap, List.length_cons, List.length_nil, List.map_const',
      List.sum_replicate_nat] at hlength
    omega
  · intro round hround
    obtain ⟨status, text, timer, hverdict, -, hfinal⟩ := hverdicts round hround
    have hfinal : final round = _ := hfinal
    exact ⟨status, text, hverdict, by rw [hfinal], by rw [hfinal]⟩

end Suite

end Testbed
