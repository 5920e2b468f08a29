import Mathlib.Data.List.Basic
import Testbed.Proofs.Run.Agreement

/-! # Records that are left as not run

A run leaves a record as not run for two reasons only: its body has put it off,
or its suite was asked to stop before the run came to it. Neither is a failure,
so an exit code of zero vouches for a record only as far as none of the two has
happened to it.
-/

namespace Testbed

variable {σ α β : Type}

theorem infix_flatMap_of_mem {x : α} {xs : List α} (h : x ∈ xs) (f : α → List β) :
    f x <:+: xs.flatMap f :=
  List.flatMap_def ▸ List.infix_of_mem_flatten (List.mem_map_of_mem h)

/-- Why a record is left as not run, told by the acts of the run. -/
inductive Record.Pending (acts : Journal) (r : Record σ) : Prop where
  /-- A hook or a body of the suite has asked to stop; the request is right behind its call. -/
  | unreached {c : Call} :
      [.call c, .stop] <:+: acts → c.suite = r.testCase.suiteName → r.log = "" → Pending acts r
  | putOff {c : Call} {detail : String} :
      .call c ∈ acts → c.suite = r.testCase.suiteName → c.caseName = r.testCase.name →
      c.target = .body → c.interrupt = some (.notRun detail) → r.log = "notrun: " ++ detail →
      Pending acts r

namespace Record.Pending

variable {acts more : Journal} {r : Record σ}

theorem mono (h : r.Pending acts) (hacts : acts <:+: more) : r.Pending more := by
  cases h with
  | unreached hstop hsuite hlog => exact .unreached (hstop.trans hacts) hsuite hlog
  | putOff hcall hsuite hname hbody hraised hlog =>
    exact .putOff (hacts.subset hcall) hsuite hname hbody hraised hlog

/-- Without a request to stop, and without a body that puts a case off, nothing is left. -/
theorem not_of_quiet {j : Journal} (hstop : j.stopped = false)
    (hbodies : ∀ c ∈ j.calls, c.target = .body → ∀ detail, c.interrupt ≠ some (.notRun detail)) :
    ¬ r.Pending j.acts := by
  intro h
  cases h with
  | unreached hwithin =>
    have hmem : Entry.stop ∈ j := List.mem_of_mem_filter (hwithin.subset (by simp))
    rw [Journal.stopped, List.contains_eq_mem, decide_eq_false_iff_not] at hstop
    exact hstop hmem
  | @putOff c detail hcall _ _ hbody hraised =>
    have hmem : c ∈ j.acts.calls := List.mem_filterMap.mpr ⟨_, hcall, rfl⟩
    rw [Journal.calls_acts] at hmem
    exact hbodies c hmem hbody detail hraised

end Record.Pending

namespace Reply

variable {suite : String} {target : Call.Target} {ctx : Context σ} {reply : Reply σ Unit}

theorem pending_of_stop {acts : Journal} {r : Record σ} (hstop : reply.stop = true)
    (hacts : reply.acts suite target ctx <:+: acts) (hsuite : r.testCase.suiteName = suite)
    (hlog : r.log = "") : r.Pending acts := by
  rw [Reply.acts, if_pos hstop] at hacts
  exact .unreached hacts hsuite.symm hlog

theorem acts_isInfix {replies : List (Reply σ Unit)} (h : reply ∈ replies) :
    reply.acts suite target ctx <:+: replies.flatMap (·.acts suite target ctx) :=
  infix_flatMap_of_mem h _

end Reply

namespace Suite

namespace Job

variable {job : Job σ} {b : Block σ} {r : Record σ} {reply : Reply σ Unit}

theorem Block.acts_isInfix_of_body (h : reply ∈ b.body) :
    reply.acts job.suite .body (job.context r) <:+: b.acts job r := by
  rw [Block.acts, Block.opening, List.append_assoc]
  exact (Reply.acts_isInfix h).trans (List.infix_append' ..)

theorem Block.acts_isInfix (h : reply ∈ b.replies) :
    ∃ target, reply.acts job.suite target (job.context r) <:+: b.acts job r := by
  rw [Block.replies, List.mem_append, List.mem_append] at h
  rcases h with (hbefore | hbody) | hafter
  · refine ⟨.hook .beforeCase, (Reply.acts_isInfix hbefore).trans ?_⟩
    rw [Block.acts, Block.opening, List.append_assoc]
    exact (List.prefix_append ..).isInfix
  · exact ⟨.body, acts_isInfix_of_body hbody⟩
  · exact ⟨.hook .afterCase, (Reply.acts_isInfix hafter).trans (List.suffix_append ..).isInfix⟩

/-- Only the body itself can put a case off. -/
theorem Verdict.put_off {setup : Option Interrupt} {ignoreFailure : Bool} {status : Status}
    {text : String} (h : Verdict setup ignoreFailure b status text) (hstatus : status = .notRun) :
    ∃ last ∈ b.body, ∃ detail, last.interrupt? = some (.notRun detail) ∧
      text = "notrun: " ++ detail := by
  cases h with
  | suiteSetup => cases hstatus
  | caseSetup => cases hstatus
  | @body _ last _ _ _ _ _ hlast htry =>
    refine ⟨last, List.mem_of_getLast? hlast, ?_⟩
    generalize last.interrupt? = raised at htry
    cases htry with
    | notRun detail => exact ⟨detail, rfl, rfl⟩
    | _ => cases hstatus

theorem Round.pending_final {setup : Reply σ Unit} {round : Round σ} {s : σ}
    (h : round.block.Follows job setup.interrupt?.isSome round.record s)
    (hlog : round.record.log = "") (hsuite : round.record.testCase.suiteName = job.suite)
    (hstatus : (round.final job (setupText? setup)).status = .notRun) :
    (round.final job (setupText? setup)).Pending (round.block.acts job round.record) := by
  obtain ⟨last, hlast, detail, hraised, htext⟩ := (verdict_of_follows h).put_off hstatus
  have hcall : Entry.call ⟨job.suite, .body, round.record.testCase.name, job.environment.isNew,
      last.interrupt?⟩ ∈ round.block.acts job round.record :=
    (Block.acts_isInfix_of_body hlast).subset List.mem_cons_self
  have hlogged : (round.final job (setupText? setup)).log =
      appendLine round.record.log ("notrun: " ++ detail) := congrArg (appendLine _) htext
  refine .putOff hcall hsuite.symm rfl rfl hraised ?_
  rw [hlogged, hlog]
  simp [appendLine]

/-- The end of the last round finds a request to stop only if one was made. -/
theorem exists_stop_of_stopSeen {setup : Reply σ Unit} {rounds : List (Round σ)}
    (h : stopSeen setup.stop rounds = true) :
    setup.stop = true ∨ ∃ round ∈ rounds, ∃ reply ∈ round.block.replies, reply.stop = true := by
  rw [stopSeen, Bool.and_eq_true, Bool.or_eq_true] at h
  rcases h.2 with hsetup | hrounds
  · exact .inl hsetup
  · obtain ⟨round, hround, hstops⟩ := List.any_eq_true.mp hrounds
    exact .inr ⟨round, hround, List.any_eq_true.mp hstops⟩

end Job

open Job

/-- The records that a suite run leaves as not run are pending. -/
theorem pending_runWith (suite : String) (hooks : Hooks σ) (delay : Nat) (e : Environment σ)
    {records : List (Record σ)}
    (hrecords : ∀ r ∈ records, r.log = "" ∧ r.testCase.suiteName = suite) (w : World σ) :
    let run := (runWith suite hooks delay e records).run w
    ∀ r ∈ run.value.2.1, r.status = .notRun → r.Pending run.journal.acts := by
  intro run r hr hstatus
  obtain ⟨rounds, rest, rfl, hrounds, -, hvalue, -, hacts⟩ :=
    acts_runWith suite hooks delay e records w
  let job : Job σ := ⟨suite, hooks, e.markUsed, delay⟩
  have hblock {round : Round σ} (hround : round ∈ rounds) :
      round.block.acts job round.record <:+: run.journal.acts := by
    rw [hacts]
    refine List.infix_cons (.trans ?_ (List.infix_append' ..))
    exact infix_flatMap_of_mem hround fun round => round.block.acts job round.record
  rw [hvalue] at hr
  rcases List.mem_append.mp hr with hr | hr
  · obtain ⟨round, hround, rfl⟩ := List.mem_map.mp hr
    obtain ⟨hlog, hsuite⟩ :=
      hrecords round.record (List.mem_append_left _ (List.mem_map_of_mem hround))
    obtain ⟨s, hfollows⟩ := hrounds.follows hround
    exact (Round.pending_final hfollows hlog hsuite hstatus).mono (hblock hround)
  · obtain ⟨hlog, hsuite⟩ := hrecords r (List.mem_append_right _ hr)
    have hseen := hrounds.stopSeen_of_ne_nil (List.ne_nil_of_mem hr)
    rcases exists_stop_of_stopSeen hseen with hstop | ⟨round, hround, reply, hreply, hstop⟩
    · have hsetup : job.suiteActs .beforeSuite (job.answer .beforeSuite w.state) <:+:
          run.journal.acts := by
        rw [hacts]
        exact List.infix_cons (List.prefix_append ..).isInfix
      exact Reply.pending_of_stop hstop hsetup hsuite hlog
    · obtain ⟨target, hwithin⟩ := Block.acts_isInfix hreply
      exact Reply.pending_of_stop hstop (hwithin.trans (hblock hround)) hsuite hlog

theorem pending_run (suite : Suite σ) (delay : Nat) (e : Environment σ) {records : List (Record σ)}
    (hrecords : ∀ r ∈ records, r.log = "" ∧ r.testCase.suiteName = suite.name) (w : World σ) :
    let run := (suite.run delay e records).run w
    ∀ r ∈ run.value.2.1, r.status = .notRun → r.Pending run.journal.acts := by
  intro run r hr hstatus
  have hpending := pending_runWith suite.name (suite.create w.state).1 delay e hrecords
    { w with state := (suite.create w.state).2 } r hr hstatus
  exact hpending.mono (List.suffix_cons ..).isInfix

end Suite

namespace Run

variable {catalogue : Catalogue σ} {cases : List (Case σ)}

theorem pending_tour {delay : Nat} {plan : List (Suite σ × List (Record σ))}
    (hplan : ∀ visit ∈ plan, ∀ r ∈ visit.2, r.log = "" ∧ r.testCase.suiteName = visit.1.name)
    (e : Environment σ) (w : World σ) :
    let run := (tour delay e plan).run w
    ∀ r ∈ run.value.1, r.status = .notRun → r.Pending run.journal.acts := by
  induction plan generalizing e w with
  | nil => exact fun _ hr => absurd hr List.not_mem_nil
  | cons visit plan ih =>
    obtain ⟨hvisit, hplan⟩ := List.forall_mem_cons.mp hplan
    intro run r hr hstatus
    simp only [run, tour, Task.run_bind, Task.run_pure, List.append_nil, Journal.acts_append,
      List.mem_append] at hr ⊢
    rcases hr with hr | hr
    · exact (visit.1.pending_run delay e hvisit w r hr hstatus).mono (List.prefix_append ..).isInfix
    · exact (ih hplan _ _ r hr hstatus).mono (List.suffix_append ..).isInfix

/-- The records that a run of catalogued cases leaves as not run are pending. -/
theorem pending_runCases (hcatalogue : catalogue.Frozen) (hcases : ∀ c ∈ cases, c ∈ catalogue.cases)
    (settings : Settings) (e : Environment σ) (w : World σ) :
    let run := (runCases catalogue cases settings e).run w
    ∀ out, run.value.1 = .ok out → ∀ r ∈ out, r.status = .notRun → r.Pending run.journal.acts := by
  intro run out hout r hr hstatus
  obtain ⟨ran, hran, hperm, hacts, -⟩ := run_runCases_tour hcatalogue hcases settings e w
  obtain rfl : ran = out := by
    rw [hran] at hout
    exact Except.ok.inj hout
  rw [hacts]
  rcases List.mem_append.mp (hperm.subset hr) with hr | hr
  · refine pending_tour (fun visit hvisit r hr => ?_) e w r hr hstatus
    obtain ⟨-, hvisited⟩ := mem_itinerary hcatalogue hvisit
    rw [hvisited] at hr
    obtain ⟨made, hmade, rfl⟩ := List.mem_map.mp hr
    obtain ⟨hmade, hsuite⟩ := List.mem_filter.mp hmade
    have huntouched := settings.untouched_records cases made hmade
    exact ⟨huntouched.log, of_decide_eq_true (Bool.and_eq_true_iff.mp hsuite).2⟩
  · obtain ⟨made, -, rfl⟩ := List.mem_map.mp hr
    cases hstatus

/-- The status is one that an exit code of zero stands for. -/
def Vouched (status : Status) : Prop :=
  status = .passed ∨ status = .skipped ∨ status = .attempted

theorem vouched_iff {status : Status} :
    Vouched status ↔ status ≠ .failed ∧ Report.isPending status = false := by
  cases status <;> simp [Vouched, Report.isPending]

/-- An exit code of zero rules failures out, and nothing else: a record that it does not vouch for
is one that its body has put off, or one that the run did not come to because its suite was asked to
stop. If neither happens, or if the summary counts no record as not run, it vouches for all. -/
theorem runCases_exit_zero (hcatalogue : catalogue.Frozen)
    (hcases : ∀ c ∈ cases, c ∈ catalogue.cases) (settings : Settings) (e : Environment σ)
    (w : World σ) (invocation : Report.Invocation) (duration now : Nat) :
    let run := (runCases catalogue cases settings e).run w
    ∃ out, run.value.1 = .ok out ∧
      let report := Report.ofRecords invocation duration out now
      (report.exitCode = 0 ↔ ∀ r ∈ out, r.status ≠ .failed) ∧
      (report.exitCode = 0 → ∀ r ∈ out,
        Vouched r.status ∨ r.status = .notRun ∧ r.Pending run.journal.acts) ∧
      (report.exitCode = 0 ∧ report.summary.notRun = 0 ↔ ∀ r ∈ out, Vouched r.status) ∧
      (run.journal.stopped = false →
        (∀ c ∈ run.journal.calls, c.target = .body →
          ∀ detail, c.interrupt ≠ some (.notRun detail)) →
        report.exitCode = 0 → ∀ r ∈ out, Vouched r.status) := by
  intro run
  obtain ⟨out, told, elapsed, hout, htells, -, -⟩ :=
    messages_runCases hcatalogue hcases settings e w
  have hpending := pending_runCases hcatalogue hcases settings e w out hout
  refine ⟨out, hout, ?_⟩
  intro report
  have hzero : report.exitCode = 0 ↔ ∀ r ∈ out, r.status ≠ .failed := by
    rw [Report.exitCode_eq_zero_iff, Report.failed_pos_iff]
    simp
  have hvouched : report.exitCode = 0 → ∀ r ∈ out,
      Vouched r.status ∨ r.status = .notRun ∧ r.Pending run.journal.acts := by
    intro hexit r hr
    have hfailed := hzero.mp hexit r hr
    have hrunning := (htells.ended r hr).not_running
    cases hstatus : r.status with
    | notRun => exact .inr ⟨rfl, hpending r hr hstatus⟩
    | running => exact absurd hstatus hrunning
    | failed => exact absurd hstatus hfailed
    | passed => exact .inl (.inl rfl)
    | skipped => exact .inl (.inr (.inl rfl))
    | attempted => exact .inl (.inr (.inr rfl))
  have hnone : report.summary.notRun = 0 ↔ ∀ r ∈ out, Report.isPending r.status = false := by
    simp [report, Report.ofRecords, Report.Summary.ofStatuses_eq]
  refine ⟨hzero, hvouched, ?_, ?_⟩
  · rw [hzero, hnone]
    simp only [vouched_iff, forall_and]
  · intro hstop hbodies hexit r hr
    rcases hvouched hexit r hr with hstatus | ⟨-, hleft⟩
    · exact hstatus
    · exact absurd hleft (Record.Pending.not_of_quiet hstop hbodies)

/-- The first case asks to stop, so that the run does not come to the second one. -/
def halted : Catalogue Unit where
  registry := (Registry.addAll {} [
    .suite { name := "a" },
    .testCase { suiteName := "a", name := "x", body := fun _ => .requestStop },
    .testCase { suiteName := "a", name := "y" }]).registry

theorem frozen_halted : halted.Frozen :=
  ⟨halted.registry, Registry.Reachable.empty.addAll (by simp [Registry.Item.Fresh]), rfl⟩

theorem statuses_halted {out : List (Record Unit)}
    (hout : ((runCases halted halted.cases { runName := "run" } oneNode).run ⟨(), 0⟩).value.1 =
      .ok out) : (out.map (·.status)).Perm [.passed, .notRun] :=
  map_perm_of_runCases hout (by decide +kernel)

theorem exitCode_of_perm {records : List (Record σ)}
    (hstatuses : (records.map (·.status)).Perm [.passed, .notRun])
    (invocation : Report.Invocation) :
    (Report.ofRecords invocation 0 records 0).exitCode = 0 := by
  rw [Report.exitCode_eq_zero_iff, Report.failed_pos_iff]
  rintro ⟨r, hr, hfailed⟩
  have hmem := hstatuses.subset (List.mem_map_of_mem hr)
  simp [hfailed] at hmem

theorem exists_notRun_of_perm {records : List (Record σ)}
    (hstatuses : (records.map (·.status)).Perm [.passed, .notRun]) :
    ∃ r ∈ records, r.status = .notRun :=
  List.mem_map.mp (hstatuses.symm.subset (List.mem_cons_of_mem _ List.mem_cons_self))

/-- The record that is not vouched for is pending. -/
theorem runCases_exit_zero_halted :
    let invocation : Report.Invocation :=
      { runName := "run", environment := "local", retries := 0, times := 1, ignoreFailure := false }
    let run := (runCases halted halted.cases { runName := "run" } oneNode).run ⟨(), 0⟩
    ∃ out, run.value.1 = .ok out ∧ (Report.ofRecords invocation 0 out 0).exitCode = 0 ∧
      ∃ r ∈ out, r.status = .notRun ∧ r.Pending run.journal.acts := by
  intro invocation run
  obtain ⟨out, hout, -, hvouched, -⟩ := runCases_exit_zero frozen_halted (fun _ hc => hc)
    { runName := "run" } oneNode ⟨(), 0⟩ invocation 0 0
  have hstatuses := statuses_halted hout
  have hexit := exitCode_of_perm hstatuses invocation
  obtain ⟨r, hr, hstatus⟩ := exists_notRun_of_perm hstatuses
  rcases hvouched hexit r hr with hpassed | hleft
  · exact absurd hpassed (by simp [hstatus, Vouched])
  · exact ⟨out, hout, hexit, r, hr, hleft⟩

/-- An exit code of zero does not vouch for a case to which the run did not come because it was
asked to stop. -/
theorem not_vouched_when_halted :
    ¬ ∀ (catalogue : Catalogue Unit) (cases : List (Case Unit)) (settings : Settings)
        (e : Environment Unit) (w : World Unit) (invocation : Report.Invocation)
        (duration now : Nat) (out : List (Record Unit)),
      catalogue.Frozen → (∀ c ∈ cases, c ∈ catalogue.cases) →
      ((runCases catalogue cases settings e).run w).value.1 = .ok out →
      (Report.ofRecords invocation duration out now).exitCode = 0 →
      ∀ r ∈ out, Vouched r.status := by
  intro hall
  let invocation : Report.Invocation :=
    { runName := "run", environment := "local", retries := 0, times := 1, ignoreFailure := false }
  obtain ⟨out, hrun, -⟩ := run_runCases_tour frozen_halted (fun _ hc => hc)
    { runName := "run" } oneNode ⟨(), 0⟩
  have hout := congrArg Prod.fst hrun
  have hstatuses := statuses_halted hout
  obtain ⟨r, hr, hstatus⟩ := exists_notRun_of_perm hstatuses
  have hpassed := hall halted halted.cases { runName := "run" } oneNode ⟨(), 0⟩ invocation 0 0 out
    frozen_halted (fun _ hc => hc) hout (exitCode_of_perm hstatuses invocation) r hr
  simp [hstatus, Vouched] at hpassed

end Run

end Testbed
