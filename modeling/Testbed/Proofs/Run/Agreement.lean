import Testbed.Proofs.Run.Course
import Testbed.Proofs.Run.Tour
import Testbed.Report.Basic

/-! # What is said of a run

The last message of a run, the counts of its report and the exit code all tell
whether a record has failed. The counts add up to the records that were made.
-/

namespace Testbed

variable {σ : Type}

namespace Report

/-- Whether a status is counted as not run. -/
def isPending (status : Status) : Bool :=
  status = .notRun || status = .running

theorem Summary.foldl_add (s : Summary) (statuses : List Status) :
    statuses.foldl Summary.add s =
      { passed := s.passed + statuses.count .passed
        failed := s.failed + statuses.count .failed
        skipped := s.skipped + statuses.count .skipped
        attempted := s.attempted + statuses.count .attempted
        notRun := s.notRun + statuses.countP isPending } := by
  induction statuses generalizing s with
  | nil => rfl
  | cons status statuses ih =>
    rw [List.foldl_cons, ih]
    cases status <;> simp [Summary.add, isPending] <;> omega

theorem Summary.ofStatuses_eq (statuses : List Status) :
    Summary.ofStatuses statuses =
      { passed := statuses.count .passed
        failed := statuses.count .failed
        skipped := statuses.count .skipped
        attempted := statuses.count .attempted
        notRun := statuses.countP isPending } := by
  rw [Summary.ofStatuses, Summary.foldl_add]
  simp

/-- Every status is counted once. -/
theorem Summary.total (statuses : List Status) :
    let s := Summary.ofStatuses statuses
    s.passed + s.failed + s.skipped + s.attempted + s.notRun = statuses.length := by
  rw [Summary.ofStatuses_eq]
  induction statuses with
  | nil => rfl
  | cons status statuses ih =>
    cases status <;> simp [isPending] at ih ⊢ <;> omega

variable {invocation : Invocation} {duration now : Nat} {records : List (Record σ)}

theorem failed_pos_iff :
    0 < (ofRecords invocation duration records now).summary.failed ↔
      ∃ r ∈ records, r.status = .failed := by
  simp [ofRecords, Summary.ofStatuses_eq, List.count_pos_iff]

theorem exitCode_eq_ten_iff {report : Report} :
    report.exitCode = 10 ↔ 0 < report.summary.failed := by
  rw [exitCode]
  split <;> simp_all

theorem exitCode_eq_zero_iff {report : Report} :
    report.exitCode = 0 ↔ ¬ 0 < report.summary.failed := by
  rw [exitCode]
  split <;> simp_all

end Report

namespace Run

theorem verdict_eq_failed_iff {records : List (Record σ)} :
    verdict records = .failed ↔ ∃ r ∈ records, r.status = .failed := by
  simp [verdict]

theorem verdict_eq_success_iff {records : List (Record σ)} :
    verdict records = .success ↔ ¬ ∃ r ∈ records, r.status = .failed := by
  simp [verdict]

/-- The last message of a run, the counts of its report and the exit code agree on whether a record
has failed. -/
theorem runCases_verdicts_agree {catalogue : Catalogue σ} (hcatalogue : catalogue.Frozen)
    {cases : List (Case σ)} (hcases : ∀ c ∈ cases, c ∈ catalogue.cases) (settings : Settings)
    (e : Environment σ) (w : World σ) (invocation : Report.Invocation) (duration now : Nat) :
    let run := (runCases catalogue cases settings e).run w
    ∃ (out : List (Record σ)) (final : RunMessage), run.value.1 = .ok out ∧
      run.journal.messages.getLast? = some (.run final) ∧
      let report := Report.ofRecords invocation duration out now
      let failed := ∃ r ∈ out, r.status = .failed
      (final.status = .failed ↔ failed) ∧ (0 < report.summary.failed ↔ failed) ∧
      (report.exitCode = 10 ↔ failed) ∧
      (¬ failed → final.status = .success ∧ report.exitCode = 0) ∧
      report.summary.passed + report.summary.failed + report.summary.skipped +
        report.summary.attempted + report.summary.notRun =
          cases.length * max settings.times.toNat 1 ∧
      report.results.map (fun result =>
          (result.id, result.name, result.suite, result.status, result.log)) =
        out.map (fun r => (r.id, r.name, r.testCase.suiteName, r.status, r.log)) ∧
      (settings.ignoreFailure = true → ∀ r ∈ out, r.status ≠ .failed) ∧
      (settings.ignoreFailure = false → ∀ r ∈ out, r.status ≠ .attempted) := by
  intro run
  obtain ⟨out, told, elapsed, hout, htells, horigin, hmessages⟩ :=
    messages_runCases hcatalogue hcases settings e w
  have hended := htells.ended
  have hignore : ∀ r ∈ out, r.ignoreFailure = settings.ignoreFailure := by
    intro r hr
    obtain ⟨made, hmade, hsame⟩ := List.mem_map.mp (horigin.subset (List.mem_map_of_mem hr))
    obtain ⟨c, -, hmade⟩ := List.mem_flatMap.mp hmade
    obtain ⟨iteration, -, rfl⟩ := List.mem_map.mp hmade
    exact (congrArg Record.ignoreFailure hsame).symm
  refine ⟨out, _, hout, hmessages ▸ getLast?_transcript .., verdict_eq_failed_iff,
    Report.failed_pos_iff, Report.exitCode_eq_ten_iff.trans Report.failed_pos_iff, ?_, ?_, ?_, ?_,
    ?_⟩
  · intro hnone
    refine ⟨verdict_eq_success_iff.mpr hnone, Report.exitCode_eq_zero_iff.mpr ?_⟩
    rwa [Report.failed_pos_iff]
  · have hlength := horigin.length_eq
    rw [List.length_map, List.length_map, Settings.length_records] at hlength
    rw [← hlength, ← List.length_map (·.status)]
    exact Report.Summary.total _
  · rw [Report.ofRecords, List.map_map]
    rfl
  · exact fun hset r hr => (hended r hr).not_failed ((hignore r hr).trans hset)
  · exact fun hset r hr => (hended r hr).not_attempted ((hignore r hr).trans hset)

theorem runCases_verdicts_agree_mixed :
    let e : Environment Unit := { name := "local", stage := .deployed, nodes := [] }
    let settings : Settings := { runName := "run", times := 2, ignoreFailure := true }
    ∃ out, ((runCases mixed mixed.cases settings e).run ⟨(), 0⟩).value.1 = .ok out ∧
      let invocation : Report.Invocation :=
        { runName := "run", environment := "local", retries := 0, times := 2, ignoreFailure := true }
      let summary := (Report.ofRecords invocation 0 out 0).summary
      summary.passed + summary.failed + summary.skipped + summary.attempted + summary.notRun = 8 ∧
        ∀ r ∈ out, r.status ≠ .failed := by
  intro e settings
  obtain ⟨out, final, hout, -, -, -, -, -, htotal, -, hignored, -⟩ := runCases_verdicts_agree
    frozen_mixed (fun _ hc => hc) settings e ⟨(), 0⟩
    { runName := "run", environment := "local", retries := 0, times := 2, ignoreFailure := true } 0 0
  exact ⟨out, hout, htotal, hignored rfl⟩

end Run

end Testbed
