import Testbed.Proofs.Notifier
import Testbed.Proofs.Run.Course
import Testbed.Proofs.Run.Tour

/-! # What a run announces

A run announces its records in the order of the selection, and after that each
record takes its course. Whoever keeps the latest message of each record ends up
with the records that the run returns.
-/

namespace Testbed

variable {σ α β κ : Type}

theorem eraseDups_of_nodup [BEq α] [LawfulBEq α] {xs : List α} (h : xs.Nodup) :
    xs.eraseDups = xs := by
  induction xs with
  | nil => rfl
  | cons x xs ih =>
    obtain ⟨hx, hxs⟩ := List.nodup_cons.mp h
    have hkeep : xs.filter (fun y => !y == x) = xs :=
      List.filter_eq_self.mpr fun y hy => by
        simpa using fun heq : y = x => hx (heq ▸ hy)
    rw [List.eraseDups_cons, hkeep, ih hxs]

/-- What is known already does not come first. -/
theorem eraseDups_append_of_subset [BEq α] [LawfulBEq α] {xs ys : List α} (hxs : xs.Nodup)
    (hys : ∀ y ∈ ys, y ∈ xs) : (xs ++ ys).eraseDups = xs := by
  have hnone : ys.removeAll xs = [] :=
    List.filter_eq_nil_iff.mpr fun y hy => by simpa using hys y hy
  rw [List.eraseDups_append, hnone, eraseDups_of_nodup hxs]
  simp

/-- The items under the key of one of several groups are those of the group. -/
theorem filter_flatMap_key [DecidableEq κ] {key : α → κ} (items : α → List β) (mark : β → κ)
    {xs : List α} (hxs : (xs.map key).Nodup) (hitems : ∀ x ∈ xs, ∀ y ∈ items x, mark y = key x)
    {x : α} (hx : x ∈ xs) : (xs.flatMap items).filter (mark · = key x) = items x := by
  induction xs with
  | nil => exact absurd hx List.not_mem_nil
  | cons first xs ih =>
    obtain ⟨hfirst, hxs⟩ := List.nodup_cons.mp hxs
    obtain ⟨hitem, hrest⟩ := List.forall_mem_cons.mp hitems
    rw [List.flatMap_cons, List.filter_append]
    rcases List.mem_cons.mp hx with rfl | hx
    · have hown : (items x).filter (mark · = key x) = items x :=
        List.filter_eq_self.mpr fun y hy => by simpa using hitem y hy
      have hothers : (xs.flatMap items).filter (mark · = key x) = [] := by
        refine List.filter_eq_nil_iff.mpr fun y hy => ?_
        obtain ⟨other, hother, hy⟩ := List.mem_flatMap.mp hy
        rw [decide_eq_true_eq, hrest other hother y hy]
        exact fun heq => hfirst (heq ▸ List.mem_map_of_mem hother)
      rw [hown, hothers, List.append_nil]
    · have hothers : (items first).filter (mark · = key x) = [] := by
        refine List.filter_eq_nil_iff.mpr fun y hy => ?_
        rw [decide_eq_true_eq, hitem y hy]
        exact fun heq => hfirst (heq ▸ List.mem_map_of_mem hx)
      rw [hothers, ih hxs hrest hx, List.nil_append]

theorem map_eq_of_keys_eq {key : α → κ} {key' : β → κ} {γ : Type} {f : α → γ} {g : β → γ}
    {xs : List α} {ys : List β} (hkeys : xs.map key = ys.map key')
    (h : ∀ x ∈ xs, ∀ y ∈ ys, key x = key' y → f x = g y) : xs.map f = ys.map g := by
  induction xs generalizing ys with
  | nil =>
    cases ys with
    | nil => rfl
    | cons => cases hkeys
  | cons x xs ih =>
    cases ys with
    | nil => cases hkeys
    | cons y ys =>
      obtain ⟨hkey, hkeys⟩ := List.cons.inj hkeys
      obtain ⟨hx, hxs⟩ := List.forall_mem_cons.mp h
      rw [List.map_cons, List.map_cons, hx y List.mem_cons_self hkey,
        ih hkeys fun x hx y hy => hxs x hx y (List.mem_cons_of_mem _ hy)]

theorem filterMap_record? (told : List RecordMessage) :
    (told.map Message.record).filterMap Message.record? = told := by
  rw [List.filterMap_map]
  exact List.filterMap_some

namespace Course

variable {r : Record σ} {told : List RecordMessage}

/-- The statuses that a record can be told of with, from the first message on. -/
theorem statuses (h : Course r told) :
    told.map (·.status) = [] ∨ told.map (·.status) = [.skipped] ∨
      ∃ last ∈ [Status.passed, .failed, .skipped, .attempted, .notRun],
        told.map (·.status) = [.running, last] := by
  cases h with
  | unreached => exact .inl rfl
  | leftOut hstatus hlast => exact .inr (.inl (by simp [hlast.status, hstatus]))
  | ran _ hfirst hended hlast =>
    refine .inr (.inr ⟨r.status, ?_, by simp [hfirst, hlast.status]⟩)
    cases hstatus : r.status with
    | running => exact absurd hstatus hended.not_running
    | _ => simp

/-- The last message about a record shows how it has ended. -/
theorem shows_last (h : Course r told) {made : Record σ} (hmade : made.Untouched)
    (horigin : made.origin = r.origin) (now : Nat) :
    ∃ m, (made.message now :: told).getLast? = some m ∧ m.Shows r := by
  cases h with
  | unreached hstatus hlog =>
    refine ⟨_, rfl, Record.id_eq_of_origin_eq horigin, ?_, ?_, ?_⟩
    · exact congrArg Case.fullName (Record.testCase_eq_of_origin_eq horigin)
    · exact hmade.status.trans hstatus.symm
    · simp [Record.message, hmade.log, hlog]
  | leftOut _ hlast => exact ⟨_, rfl, hlast⟩
  | ran _ _ _ hlast => exact ⟨_, rfl, hlast⟩

end Course

namespace Run

variable {records : List (Record σ)} {courses : List (Record σ × List RecordMessage)}

/-- The messages about one record: that it is made, and then its course. -/
theorem about_eq (hids : (records.map (·.id)).Nodup)
    (hcourses : ∀ course ∈ courses, Course course.1 course.2)
    (horigin : ((courses.map (·.1)).map Record.origin).Perm (records.map Record.origin))
    (now : Nat) {course : Record σ × List RecordMessage} (hcourse : course ∈ courses) :
    ∃ made ∈ records, made.origin = course.1.origin ∧
      (records.map (·.message now) ++ courses.flatMap (·.2)).filter (·.id = course.1.id) =
        made.message now :: course.2 := by
  have hmem : course.1.origin ∈ records.map Record.origin :=
    horigin.subset (List.mem_map_of_mem (List.mem_map_of_mem hcourse))
  obtain ⟨made, hmade, hsame⟩ := List.mem_map.mp hmem
  have hkeys : (courses.map (·.1.id)).Nodup := by
    have hperm := horigin.map (·.id)
    simp only [List.map_map] at hperm
    exact hperm.nodup_iff.mpr hids
  have hfirst := filter_flatMap_key (fun r => [Record.message r now]) (·.id) hids
    (by simp [Record.message]) hmade
  have hrest := filter_flatMap_key (·.2) (·.id) hkeys
    (fun course hcourse m hm => (hcourses course hcourse).id_eq hm) hcourse
  refine ⟨made, hmade, hsame, ?_⟩
  rw [List.filter_append, List.map_eq_flatMap, hrest, ← Record.id_eq_of_origin_eq hsame, hfirst]
  rfl

/-- Whoever keeps the latest messages has those records that come first in this order and are shown
by the last messages about them. -/
theorem latest_eq {messages : List Message} {out : List (Record σ)}
    (hids : (out.map (·.id)).Nodup)
    (hfirst : ((messages.filterMap Message.record?).map (·.id)).eraseDups = out.map (·.id))
    (hlast : ∀ r ∈ out, ∃ m, ((messages.filterMap Message.record?).filter (·.id = r.id)).getLast? =
      some m ∧ m.Shows r) :
    (latest messages).map (fun m => (m.id, m.name, m.status, m.text)) =
      out.map fun r => (r.id, r.name, r.status, String.ofList (r.log.toList.take 2048)) := by
  have hkeys : (latest messages).map (·.id) = out.map (·.id) := (map_id_latest _).trans hfirst
  refine map_eq_of_keys_eq hkeys fun m hm r hr hid => ?_
  have hfind : (latest messages).find? (·.id = r.id) = some m :=
    (find?_key_eq_some (·.id) (hkeys ▸ hids)).mpr ⟨hm, hid⟩
  obtain ⟨last, hlast, hshows⟩ := hlast r hr
  rw [find?_latest, hlast] at hfind
  obtain rfl := Option.some.inj hfind
  rw [hshows.id, hshows.name, hshows.status, hshows.text]

section Courses

variable {catalogue : Catalogue σ} {cases : List (Case σ)} {settings : Settings}

/-- With distinct identifiers, the messages about a record are the one by which it is announced and
its course. -/
theorem courses_runCases (hcatalogue : catalogue.Frozen)
    (hcases : ∀ c ∈ cases, c ∈ catalogue.cases)
    (hids : ((settings.records cases).map (·.id)).Nodup) (e : Environment σ) (w : World σ) :
    let records := settings.records cases
    let run := (runCases catalogue cases settings e).run w
    ∃ (out : List (Record σ)) (told : List RecordMessage) (elapsed : Nat),
      run.value.1 = .ok out ∧ out.map (·.id) = records.map (·.id) ∧
      run.journal.messages = .run ⟨settings.runName, .initializing, 0, ""⟩ ::
        ((records.map (·.message w.now)).map .record ++
          .run ⟨settings.runName, .running, 0, ""⟩ ::
            (told.map .record ++ [.run ⟨settings.runName, verdict out, elapsed, ""⟩])) ∧
      run.journal.recordMessages = records.map (·.message w.now) ++ told ∧
      (∀ m ∈ told, m.id ∈ out.map (·.id)) ∧
      ∀ r ∈ out, ∃ (made : Record σ) (course : List RecordMessage), made.Untouched ∧
        made.origin = r.origin ∧ Course r course ∧
        run.journal.about r.id = made.message w.now :: course := by
  intro records run
  obtain ⟨out, told, elapsed, hout, ⟨courses, hcourses, hperm, rfl⟩, -, hmessages⟩ :=
    messages_runCases hcatalogue hcases settings e w
  obtain ⟨out', e', hout', horigin⟩ := origin_runCases hcatalogue hcases settings hids e w
  obtain rfl : out = out' := by
    rw [hout'] at hout
    exact (Except.ok.inj hout).symm
  have htold : run.journal.recordMessages =
      records.map (·.message w.now) ++ courses.flatMap (·.2) := by
    rw [Journal.recordMessages, hmessages]
    simp only [List.filterMap_cons, List.filterMap_append, filterMap_record?, Message.record?,
      List.filterMap_nil, List.append_nil]
    rfl
  refine ⟨out, _, elapsed, hout, ids_eq_of_origin_eq horigin, hmessages, htold, ?_, ?_⟩
  · intro m hm
    obtain ⟨course, hcourse, hm⟩ := List.mem_flatMap.mp hm
    rw [(hcourses course hcourse).id_eq hm]
    exact List.mem_map_of_mem (hperm.subset (List.mem_map_of_mem hcourse))
  · intro r hr
    obtain ⟨course, hcourse, rfl⟩ := List.mem_map.mp (hperm.symm.subset hr)
    obtain ⟨made, hmade, hsame, habout⟩ := about_eq hids hcourses
      ((hperm.map Record.origin).trans (.of_eq horigin)) w.now hcourse
    refine ⟨made, course.2, settings.untouched_records cases made hmade, hsame,
      hcourses course hcourse, ?_⟩
    rw [Journal.about, htold]
    exact habout

end Courses

/-- A run announces that it starts, its records in the order of the selection, that it is on, then
for each record its course, and at last how it has ended. The latest messages of all records show
the records that are returned, in their order. -/
theorem runCases_messages {catalogue : Catalogue σ} (hcatalogue : catalogue.Frozen)
    {cases : List (Case σ)} (hcases : ∀ c ∈ cases, c ∈ catalogue.cases) (settings : Settings)
    (hids : (cases.flatMap fun c => (List.range (max settings.times.toNat 1)).map
      (recordId settings.runName c.fullName)).Nodup) (e : Environment σ) (w : World σ) :
    let run := (runCases catalogue cases settings e).run w
    ∃ (out : List (Record σ)) (made told : List RecordMessage) (final : RunMessage),
      run.value.1 = .ok out ∧
      run.journal.messages = .run ⟨settings.runName, .initializing, 0, ""⟩ ::
        (made.map .record ++ .run ⟨settings.runName, .running, 0, ""⟩ ::
          (told.map .record ++ [.run final])) ∧
      final.run = settings.runName ∧ (final.status = .success ∨ final.status = .failed) ∧
      made.map (fun m => (m.id, m.name, m.status)) = (cases.flatMap fun c =>
        (List.range (max settings.times.toNat 1)).map fun iteration =>
          (recordId settings.runName c.fullName iteration, c.fullName, Status.notRun)) ∧
      (∀ r ∈ out, let statuses := (run.journal.about r.id).map (·.status)
        statuses = [.notRun] ∨ statuses = [.notRun, .skipped] ∨
          ∃ last ∈ [Status.passed, .failed, .skipped, .attempted, .notRun],
            statuses = [.notRun, .running, last]) ∧
      (latest (Notifier.collecting.kept run.journal)).map
          (fun m => (m.id, m.name, m.status, m.text)) =
        out.map fun r => (r.id, r.name, r.status, String.ofList (r.log.toList.take 2048)) := by
  intro run
  rw [← Settings.ids_records] at hids
  obtain ⟨out, told, elapsed, hout, hsame, hmessages, hrecordMessages, htold, habout⟩ :=
    courses_runCases hcatalogue hcases hids e w
  refine ⟨out, _, told, _, hout, hmessages, rfl, ?_, ?_, ?_, ?_⟩
  · simp only [verdict]
    split
    · exact .inr rfl
    · exact .inl rfl
  · rw [Settings.records, settings.toNat_iterations]
    simp [List.map_flatMap, Function.comp_def, Record.message, Settings.record, Record.name]
  · intro r hr statuses
    obtain ⟨made, course, hmade, -, hcourse, hr⟩ := habout r hr
    have hstatuses : statuses = .notRun :: course.map (·.status) := by
      simp only [statuses, run, hr, List.map_cons, Record.message, hmade.status]
    rw [hstatuses]
    rcases hcourse.statuses with hcourse | hcourse | ⟨last, hlast, hcourse⟩
    · exact .inl (by rw [hcourse])
    · exact .inr (.inl (by rw [hcourse]))
    · exact .inr (.inr ⟨last, hlast, by rw [hcourse]⟩)
  · refine latest_eq (hsame ▸ hids) ?_ fun r hr => ?_
    · have hmade : ((settings.records cases).map (·.message w.now)).map (·.id) =
          out.map (·.id) := by
        rw [hsame, List.map_map]
        rfl
      change (run.journal.recordMessages.map (·.id)).eraseDups = _
      rw [hrecordMessages, List.map_append, hmade, eraseDups_append_of_subset (hsame ▸ hids)]
      intro id hid
      obtain ⟨m, hm, rfl⟩ := List.mem_map.mp hid
      exact htold m hm
    · obtain ⟨made, course, hmade, horigin, hcourse, habout⟩ := habout r hr
      change ∃ m, (run.journal.about r.id).getLast? = some m ∧ m.Shows r
      rw [habout]
      exact hcourse.shows_last hmade horigin w.now

theorem runCases_messages_mixed :
    let e : Environment Unit := { name := "local", stage := .deployed, nodes := [] }
    let run := (runCases mixed (mixed.cases.tail.take 2) { runName := "run" } e).run ⟨(), 0⟩
    ∃ (out : List (Record Unit)) (final : RunMessage), run.value.1 = .ok out ∧
      run.journal.messages.getLast? = some (.run final) ∧
      (latest (Notifier.collecting.kept run.journal)).map
          (fun m => (m.id, m.name, m.status, m.text)) =
        out.map fun r => (r.id, r.name, r.status, String.ofList (r.log.toList.take 2048)) := by
  intro e run
  have hcases : ∀ c ∈ mixed.cases.tail.take 2, c ∈ mixed.cases :=
    fun _ hc => List.mem_of_mem_tail (List.mem_of_mem_take hc)
  obtain ⟨out, made, told, final, hout, hmessages, -, -, -, -, hlatest⟩ := runCases_messages
    frozen_mixed hcases { runName := "run" } (by decide +kernel) e ⟨(), 0⟩
  refine ⟨out, final, hout, ?_, hlatest⟩
  rw [hmessages]
  exact getLast?_transcript ..

end Run

end Testbed
