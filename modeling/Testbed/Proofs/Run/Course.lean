import Testbed.Proofs.Run.Gate
import Testbed.Proofs.Run.Isolation
import Testbed.Proofs.Suite.Protocol

/-! # The course of a record

Once a record is made, a run tells of it that it is left out, or that it is
running and then how it ended, or nothing at all if it never comes to it. All
that a run tells between its start and its end is made of such courses, one for
each record that it returns.
-/

namespace Testbed

variable {σ : Type}

namespace Journal

theorem messages_events (j : Journal) : j.events.messages = j.messages := by
  rw [messages, messages, events, List.filterMap_filter]
  congr 1
  funext entry
  cases entry <;> rfl

theorem messages_acts (j : Journal) : j.acts.messages = [] := by
  rw [messages, List.filterMap_eq_nil_iff]
  intro entry hentry
  have hkind := (List.mem_filter.mp hentry).2
  cases entry with
  | message => cases hkind
  | _ => rfl

theorem messages_flatMap {β : Type} (f : β → Journal) (xs : List β) :
    messages (xs.flatMap f) = xs.flatMap fun x => (f x).messages :=
  List.filterMap_flatMap

theorem messages_told (records : List (Record σ)) (now : Nat) :
    messages (records.map (·.told now)) = (records.map (·.message now)).map .record := by
  induction records with
  | nil => rfl
  | cons r records ih => exact congrArg (Message.record (r.message now) :: ·) ih

end Journal

/-- The message shows how the record stands. -/
structure RecordMessage.Shows (m : RecordMessage) (r : Record σ) : Prop where
  id : m.id = r.id
  name : m.name = r.name
  status : m.status = r.status
  text : m.text = String.ofList (r.log.toList.take 2048)

namespace Record

variable {r : Record σ}

theorem shows_message (r : Record σ) (now : Nat) : (r.message now).Shows r :=
  ⟨rfl, rfl, rfl, rfl⟩

/-- The record is not running, and a failure of it is called what the record says. -/
structure Ended (r : Record σ) : Prop where
  not_running : r.status ≠ .running
  not_failed : r.ignoreFailure = true → r.status ≠ .failed
  not_attempted : r.ignoreFailure = false → r.status ≠ .attempted

end Record

/-- What can be told of a record once it is made. -/
inductive Course (r : Record σ) : List RecordMessage → Prop where
  | unreached : r.status = .notRun → r.log = "" → Course r []
  | leftOut {last : RecordMessage} : r.status = .skipped → last.Shows r → Course r [last]
  | ran {first last : RecordMessage} :
      first.id = r.id → first.status = .running → r.Ended → last.Shows r → Course r [first, last]

namespace Course

variable {r : Record σ} {told : List RecordMessage}

theorem ended (h : Course r told) : r.Ended := by
  cases h with
  | unreached hstatus => exact ⟨by simp [hstatus], by simp [hstatus], by simp [hstatus]⟩
  | leftOut hstatus => exact ⟨by simp [hstatus], by simp [hstatus], by simp [hstatus]⟩
  | ran _ _ hended => exact hended

theorem id_eq (h : Course r told) {m : RecordMessage} (hm : m ∈ told) : m.id = r.id := by
  cases h with
  | unreached => exact absurd hm List.not_mem_nil
  | leftOut _ hlast =>
    obtain rfl := List.mem_singleton.mp hm
    exact hlast.id
  | ran hid _ _ hlast =>
    rcases List.mem_cons.mp hm with rfl | hm
    · exact hid
    · obtain rfl := List.mem_singleton.mp hm
      exact hlast.id

end Course

/-- The messages are the courses of the records, in whatever order. -/
def Tells (messages : List Message) (records : List (Record σ)) : Prop :=
  ∃ courses : List (Record σ × List RecordMessage), (∀ course ∈ courses, Course course.1 course.2) ∧
    (courses.map (·.1)).Perm records ∧ messages = (courses.flatMap (·.2)).map .record

namespace Tells

variable {a b : List Message} {records others : List (Record σ)}

theorem nil : Tells (σ := σ) [] [] :=
  ⟨[], by simp, .refl _, rfl⟩

theorem append (ha : Tells a records) (hb : Tells b others) :
    Tells (a ++ b) (records ++ others) := by
  obtain ⟨first, hfirst, hrecords, rfl⟩ := ha
  obtain ⟨second, hsecond, hothers, rfl⟩ := hb
  refine ⟨first ++ second, ?_, ?_, ?_⟩
  · exact List.forall_mem_append.mpr ⟨hfirst, hsecond⟩
  · rw [List.map_append]
    exact hrecords.append hothers
  · rw [List.flatMap_append, List.map_append]

theorem perm (ha : Tells a records) (hperm : records.Perm others) : Tells a others := by
  obtain ⟨courses, hcourses, hrecords, rfl⟩ := ha
  exact ⟨courses, hcourses, hrecords.trans hperm, rfl⟩

theorem ended (ha : Tells a records) : ∀ r ∈ records, r.Ended := by
  obtain ⟨courses, hcourses, hrecords, -⟩ := ha
  intro r hr
  obtain ⟨course, hcourse, rfl⟩ := List.mem_map.mp (hrecords.symm.subset hr)
  exact (hcourses course hcourse).ended

theorem flatMap {α : Type} {xs : List α} {f : α → Record σ} {g : α → List RecordMessage}
    (h : ∀ x ∈ xs, Course (f x) (g x)) :
    Tells (xs.flatMap fun x => (g x).map .record) (xs.map f) := by
  refine ⟨xs.map fun x => (f x, g x), ?_, ?_, ?_⟩
  · intro course hcourse
    obtain ⟨x, hx, rfl⟩ := List.mem_map.mp hcourse
    exact h x hx
  · rw [List.map_map]
    exact .refl _
  · rw [List.flatMap_map, List.map_flatMap]

/-- Nothing needs to be told of records that the run does not come to. -/
theorem unreached (h : ∀ r ∈ records, r.status = .notRun ∧ r.log = "") : Tells [] records := by
  have hcourses := flatMap (f := id) (g := fun _ => []) fun r hr =>
    Course.unreached (h r hr).1 (h r hr).2
  have hnone : (records.flatMap fun _ => List.map Message.record []) = [] :=
    List.flatMap_eq_nil_iff.mpr fun _ _ => rfl
  rwa [hnone, List.map_id] at hcourses

/-- Each of the records is told of as left out. -/
theorem leftOut (h : ∀ r ∈ records, r.status = .skipped) (now : Nat) :
    Tells (Journal.messages (records.map (·.told now))) records := by
  have hcourses := flatMap (f := id) (g := fun r => [r.message now]) fun r hr =>
    Course.leftOut (h r hr) (r.shows_message now)
  rw [List.map_id] at hcourses
  rwa [Journal.messages_told, List.map_map, List.map_eq_flatMap]

end Tells

theorem LastTry.ended {ignoreFailure : Bool} {last : Option Interrupt} {status : Status}
    {text : String} (h : LastTry ignoreFailure last status text) :
    (ignoreFailure = true → status ≠ .failed) ∧ (ignoreFailure = false → status ≠ .attempted) := by
  cases h with
  | ignored _ hignore => simp [hignore]
  | failed _ hignore => simp [hignore]
  | _ => simp

namespace Suite

open Job Reply

theorem Job.Verdict.ended {setup : Option Interrupt} {ignoreFailure : Bool} {b : Block σ}
    {status : Status} {text : String} (h : Verdict setup ignoreFailure b status text) :
    (ignoreFailure = true → status ≠ .failed) ∧ (ignoreFailure = false → status ≠ .attempted) := by
  cases h with
  | suiteSetup => simp
  | caseSetup => simp
  | body _ _ _ _ hlast => exact hlast.ended

theorem Job.Round.messages_events (job : Job σ) (setupError : Option String) (round : Round σ) :
    Journal.messages (round.events job setupError) =
      [.record ((round.started job).message round.began),
        .record ((round.final job setupError).message round.ended)] := by
  have htold (r : Record σ) (now : Nat) (j : Journal) :
      Journal.messages (r.told now :: j) = .record (r.message now) :: j.messages := rfl
  rw [events, htold, Journal.messages_append, htold, ← Block.acts_opening, Journal.messages_acts,
    ← Block.acts_closing, Journal.messages_acts]
  rfl

theorem messages_suiteActs (job : Job σ) (hook : Hook) (reply : Reply σ Unit) :
    Journal.messages (job.suiteActs hook reply) = [] := by
  rw [← acts_suiteActs, Journal.messages_acts]

theorem Job.Round.course {job : Job σ} {setup : Reply σ Unit} {round : Round σ} {s : σ}
    (h : round.block.Follows job setup.interrupt?.isSome round.record s) :
    Course (round.final job (setupText? setup)) [(round.started job).message round.began,
      (round.final job (setupText? setup)).message round.ended] := by
  have hverdict := verdict_of_follows h
  obtain ⟨hfailed, hattempted⟩ := hverdict.ended
  exact .ran rfl rfl ⟨hverdict.ne_running, hfailed, hattempted⟩ (Record.shows_message ..)

/-- The records behind the last round stay as they are. -/
theorem courses_runWith (suite : String) (hooks : Hooks σ) (delay : Nat) (e : Environment σ)
    {records : List (Record σ)} (hrecords : ∀ r ∈ records, r.status = .notRun ∧ r.log = "")
    (w : World σ) :
    let run := (runWith suite hooks delay e records).run w
    Tells run.journal.messages run.value.2.1 := by
  intro run
  obtain ⟨rounds, rest, rfl, hrounds, hvalue, hevents⟩ :=
    rounds_runWith suite hooks delay e records w
  have hrun := Tells.flatMap fun round hround =>
    (hrounds.follows hround).elim fun s hfollows => Job.Round.course hfollows
  have hrest := Tells.unreached fun r hr => hrecords r (List.mem_append_right _ hr)
  have hused (j : Journal) : Journal.messages (.used suite :: j) = j.messages := rfl
  rw [← Journal.messages_events, hevents, hvalue, hused, Journal.messages_append,
    messages_suiteActs, Journal.messages_append, messages_suiteActs, Journal.messages_flatMap]
  simp only [Job.Round.messages_events]
  exact hrun.append hrest

theorem courses_run (suite : Suite σ) (delay : Nat) (e : Environment σ)
    {records : List (Record σ)} (hrecords : ∀ r ∈ records, r.status = .notRun ∧ r.log = "")
    (w : World σ) :
    let run := (suite.run delay e records).run w
    Tells run.journal.messages run.value.2.1 :=
  courses_runWith suite.name (suite.create w.state).1 delay e hrecords _

end Suite

namespace Run

variable {catalogue : Catalogue σ} {e : Environment σ} {records : List (Record σ)}

theorem courses_tour (delay : Nat) {plan : List (Suite σ × List (Record σ))}
    (hplan : ∀ visit ∈ plan, ∀ r ∈ visit.2, r.status = .notRun ∧ r.log = "") (e : Environment σ)
    (w : World σ) :
    let run := (tour delay e plan).run w
    Tells run.journal.messages run.value.1 := by
  induction plan generalizing e w with
  | nil => exact .nil
  | cons visit plan ih =>
    obtain ⟨hvisit, hplan⟩ := List.forall_mem_cons.mp hplan
    have hfirst := visit.1.courses_run delay e hvisit w
    have hothers := ih hplan ((visit.1.run delay e visit.2).run w).value.2.2
      ((visit.1.run delay e visit.2).run w).world
    simpa [tour] using hfirst.append hothers

theorem courses_runGroup (delay : Nat) (suite : Suite σ) (hrecords : ∀ r ∈ records, r.Untouched)
    (w : World σ) :
    let run := (runGroup delay suite e records).run w
    Tells run.journal.messages run.value.1 := by
  intro run
  obtain ⟨hvalue, hevents, -⟩ := run_runGroup_untouched (e := e) hrecords delay suite w
  have hleft : ∀ r ∈ (records.filter (!·.meets e)).map (leftOut e), r.status = .skipped := by
    intro r hr
    obtain ⟨r, -, rfl⟩ := List.mem_map.mp hr
    rfl
  have hvisits : ∀ visit ∈ visits suite ((records.filter (·.meets e)).map (examined e)),
      ∀ r ∈ visit.2, r.status = .notRun ∧ r.log = "" := by
    intro visit hvisit r hr
    rw [visits] at hvisit
    split at hvisit
    · exact absurd hvisit List.not_mem_nil
    · obtain rfl := List.mem_singleton.mp hvisit
      obtain ⟨r₀, hr₀, rfl⟩ := List.mem_map.mp hr
      have huntouched := hrecords r₀ (List.mem_filter.mp hr₀).1
      exact ⟨huntouched.status, huntouched.log⟩
  rw [← Journal.messages_events, hevents, hvalue, Journal.messages_append,
    Journal.messages_events]
  exact ((Tells.leftOut hleft w.now).append (courses_tour delay hvisits e w)).perm
    List.perm_append_comm

theorem courses_runGroups {groups : List (String × List (Record σ))}
    (hsuites : ∀ group ∈ groups, ∃ suite, catalogue.suite? group.1 = some suite)
    (hrecords : ∀ group ∈ groups, ∀ r ∈ group.2, r.Untouched) (delay : Nat) (e : Environment σ)
    (w : World σ) :
    let run := (runGroups catalogue delay e groups).run w
    ∃ out, run.value.1 = .ok out ∧ Tells run.journal.messages out := by
  induction groups generalizing e w with
  | nil => exact ⟨[], rfl, .nil⟩
  | cons group groups ih =>
    obtain ⟨⟨suite, hsuite⟩, hsuites⟩ := List.forall_mem_cons.mp hsuites
    obtain ⟨hgroup, hrecords⟩ := List.forall_mem_cons.mp hrecords
    obtain ⟨others, hothers, htells⟩ := ih hsuites hrecords
      ((runGroup delay suite e group.2).run w).value.2
      ((runGroup delay suite e group.2).run w).world
    rw [run_runGroups_cons hsuite]
    dsimp only
    rw [hothers, Journal.messages_append]
    exact ⟨_, rfl, (courses_runGroup delay suite hgroup w).append htells⟩

/-- How a run is said to have ended. -/
def verdict (records : List (Record σ)) : RunStatus :=
  if records.any (·.status = .failed) then .failed else .success

@[simp] theorem messages_announce (runName : String) (status : RunStatus) (elapsed : Nat)
    (w : World σ) : ((announce runName status elapsed).run w).journal.messages =
      [.run ⟨runName, status, elapsed, ""⟩] := rfl

@[simp] theorem messages_finish (settings : Settings) (began : Nat) (records : List (Record σ))
    (w : World σ) : ((finish settings began records).run w).journal.messages =
      [.run ⟨settings.runName, verdict records, w.now - began, ""⟩] := rfl

theorem getLast?_transcript {α : Type} (first middle last : α) (made told : List α) :
    (first :: (made ++ middle :: (told ++ [last]))).getLast? = some last :=
  List.getLast?_eq_some_iff.mpr ⟨first :: (made ++ middle :: told), by simp⟩

/-- What a run of catalogued cases tells: that it is about to start, the records that are made, that
it is on, the courses of the records, and how it has ended. -/
theorem messages_runCases (hcatalogue : catalogue.Frozen) {cases : List (Case σ)}
    (hcases : ∀ c ∈ cases, c ∈ catalogue.cases) (settings : Settings) (e : Environment σ)
    (w : World σ) :
    let records := settings.records cases
    let run := (runCases catalogue cases settings e).run w
    ∃ out told elapsed, run.value.1 = .ok out ∧ Tells told out ∧
      (out.map Record.origin).Perm (records.map Record.origin) ∧
      run.journal.messages = .run ⟨settings.runName, .initializing, 0, ""⟩ ::
        ((records.map (·.message w.now)).map .record ++
          .run ⟨settings.runName, .running, 0, ""⟩ ::
            (told ++ [.run ⟨settings.runName, verdict out, elapsed, ""⟩])) := by
  intro records run
  obtain ⟨ran, hran, htells⟩ := courses_runGroups
    (fun _ => exists_suite_of_groups hcatalogue hcases settings)
    (settings.untouched_groups cases) settings.delay e w
  obtain ⟨ran', e', hran', horigin⟩ := runGroups_perm settings.delay e
    (fun _ => exists_suite_of_groups hcatalogue hcases settings) w
  obtain rfl : ran = ran' := by
    rw [hran'] at hran
    exact (Except.ok.inj hran).symm
  let main := (runGroups catalogue settings.delay e (groups records)).run w
  refine ⟨inOrder (records.map (·.id)) ran, main.journal.messages, main.world.now - w.now, ?_,
    htells.perm (inOrder_perm ..).symm, ?_, ?_⟩
  · rw [value_runCases, hran]
    rfl
  · exact ((inOrder_perm ..).map _).trans
      (horigin.trans ((groups_perm (settings.records cases)).map Record.origin))
  · simp only [run, runCases, Task.run_bind, Task.run_now, run_announce, run_mapM_start, hran,
      Task.run_pure, Journal.messages_append, messages_announce, Journal.messages_told,
      messages_finish, List.append_nil]
    rfl

end Run

end Testbed
