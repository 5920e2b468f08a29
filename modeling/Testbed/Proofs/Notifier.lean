import Mathlib.Data.List.Induction
import Mathlib.Data.List.Nodup
import Testbed.Notifier

/-! # The latest messages

Whoever keeps the latest messages has the last message about each record that
was told of, in the order in which the records were told of first. One more
message puts itself in the place of the one about its record, or at the end.
-/

namespace Testbed

/-- The message, and no later one, is the last about its record. -/
def IsLast (told : List RecordMessage) (m : RecordMessage) : Prop :=
  ∃ before after, told = before ++ m :: after ∧ ∀ later ∈ after, later.id ≠ m.id

/-- Of all that was told, the last message about each record is found, and the records stand in the
order in which they were told of first. -/
structure KeepsLast (told found : List RecordMessage) : Prop where
  distinct : (found.map (·.id)).Nodup
  complete : ∀ id, id ∈ found.map (·.id) ↔ id ∈ told.map (·.id)
  last : ∀ m ∈ found, IsLast told m
  inOrder : (found.map (·.id)).Pairwise fun a b =>
    (told.map (·.id)).idxOf a < (told.map (·.id)).idxOf b

/-- Replaces the message with the same id, or appends the message if there is none. -/
def upsert (m : RecordMessage) : List RecordMessage → List RecordMessage
  | [] => [m]
  | old :: rest => if old.id = m.id then m :: rest else old :: upsert m rest

theorem map_id_upsert (m : RecordMessage) (found : List RecordMessage) :
    (upsert m found).map (·.id) =
      if m.id ∈ found.map (·.id) then found.map (·.id) else found.map (·.id) ++ [m.id] := by
  induction found with
  | nil => rfl
  | cons old found ih =>
    rw [upsert]
    by_cases hold : old.id = m.id
    · simp [hold]
    · rw [if_neg hold, List.map_cons, ih, List.map_cons]
      have hmem : m.id ∈ old.id :: found.map (·.id) ↔ m.id ∈ found.map (·.id) := by
        simp [Ne.symm hold]
      simp only [hmem]
      split <;> rfl

theorem find?_upsert (m : RecordMessage) (found : List RecordMessage) (id : String) :
    (upsert m found).find? (·.id = id) =
      if m.id = id then some m else found.find? (·.id = id) := by
  induction found with
  | nil => by_cases hid : m.id = id <;> simp [upsert, hid]
  | cons old found ih =>
    rw [upsert]
    by_cases hold : old.id = m.id
    · by_cases hid : m.id = id <;> simp [hold, hid]
    · rw [if_neg hold, List.find?_cons, List.find?_cons, ih]
      by_cases hid : m.id = id
      · simp [hid, hid ▸ hold]
      · simp [hid]

theorem upsert_of_new {m : RecordMessage} {found : List RecordMessage}
    (hnew : m.id ∉ found.map (·.id)) : upsert m found = found ++ [m] := by
  induction found with
  | nil => rfl
  | cons old found ih =>
    rw [List.map_cons, List.mem_cons, not_or] at hnew
    rw [upsert, if_neg (Ne.symm hnew.1), ih hnew.2, List.cons_append]

theorem upsert_of_known {m old : RecordMessage} {before after : List RecordMessage}
    (hdistinct : ((before ++ old :: after).map (·.id)).Nodup) (hid : old.id = m.id) :
    upsert m (before ++ old :: after) = before ++ m :: after := by
  induction before with
  | nil => rw [List.nil_append, upsert, if_pos hid, List.nil_append]
  | cons first before ih =>
    rw [List.cons_append, List.map_cons, List.nodup_cons] at hdistinct
    have hfirst : first.id ≠ m.id := fun hsame =>
      hdistinct.1 (hsame.trans hid.symm ▸ List.mem_map_of_mem (by simp))
    rw [List.cons_append, upsert, if_neg hfirst, ih hdistinct.2, List.cons_append]

theorem mem_upsert {m m' : RecordMessage} {found : List RecordMessage}
    (hdistinct : (found.map (·.id)).Nodup) (h : m' ∈ upsert m found) :
    m' = m ∨ m' ∈ found ∧ m'.id ≠ m.id := by
  induction found with
  | nil => exact Or.inl (List.mem_singleton.mp h)
  | cons old found ih =>
    rw [List.map_cons, List.nodup_cons] at hdistinct
    rw [upsert] at h
    split at h
    · rename_i hid
      refine (List.mem_cons.mp h).imp_right fun hm' => ⟨List.mem_cons_of_mem old hm', ?_⟩
      exact fun hsame => hdistinct.1 (hid.trans hsame.symm ▸ List.mem_map_of_mem hm')
    · rename_i hid
      rcases List.mem_cons.mp h with rfl | hm'
      · exact Or.inr ⟨List.mem_cons_self, hid⟩
      · exact (ih hdistinct.2 hm').imp_right fun hold => ⟨List.mem_cons_of_mem old hold.1, hold.2⟩

namespace Gathered

variable {α : Type}

theorem lookup_cons_eq (key : String) (a : α) (found : List (String × α)) (id : String) :
    ((key, a) :: found).lookup id = if id = key then some a else found.lookup id := by
  by_cases hid : id = key
  · simp [hid]
  · rw [List.lookup_cons, beq_false_of_ne hid, if_neg hid]

theorem lookup_filter_ne (found : List (String × α)) (gone id : String) :
    (found.filter (·.1 ≠ gone)).lookup id = if id = gone then none else found.lookup id := by
  induction found with
  | nil => simp
  | cons entry found ih =>
    obtain ⟨key, a⟩ := entry
    by_cases hkey : key = gone
    · rw [List.filter_cons_of_neg (by simpa using hkey), ih, lookup_cons_eq, hkey]
      split <;> rfl
    · rw [List.filter_cons_of_pos (by simpa using hkey), lookup_cons_eq, lookup_cons_eq, ih]
      by_cases hid : id = key <;> simp [hid, hkey]

theorem drain_eq {order : List String} (hdistinct : order.Nodup)
    (found : List (String × RecordMessage)) :
    drain order found = order.filterMap (found.lookup ·) := by
  induction order generalizing found with
  | nil => rfl
  | cons id order ih =>
    obtain ⟨hid, hdistinct⟩ := List.nodup_cons.mp hdistinct
    -- What is taken out would not be asked for again.
    have hrest : order.filterMap ((found.filter (·.1 ≠ id)).lookup ·) =
        order.filterMap (found.lookup ·) := by
      refine List.filterMap_congr fun other hother => ?_
      have hne : other ≠ id := fun hsame => hid (hsame ▸ hother)
      rw [lookup_filter_ne, if_neg hne]
    rw [drain, List.filterMap_cons]
    cases found.lookup id with
    | none => exact ih hdistinct found
    | some m => exact congrArg (m :: ·) ((ih hdistinct _).trans hrest)

def last? (g : Gathered) (id : String) : Option RecordMessage :=
  g.found.lookup id

/-- The identifiers that were met are those under which there is a message, which bears them. -/
structure Sound (g : Gathered) : Prop where
  distinct : g.order.Nodup
  known : ∀ id, (g.last? id).isSome = true ↔ id ∈ g.order
  keyed : ∀ id m, g.last? id = some m → m.id = id

theorem last?_gather (g : Gathered) (m : RecordMessage) (id : String) :
    (g.gather m).last? id = if id = m.id then some m else g.last? id := by
  rw [last?, gather, lookup_cons_eq, lookup_filter_ne]
  by_cases hid : id = m.id <;> simp [hid, last?]

theorem Sound.nil : Sound {} where
  distinct := List.nodup_nil
  known _ := by simp [last?]
  keyed := nofun

variable {g : Gathered} (h : g.Sound)

include h

theorem Sound.order_gather (m : RecordMessage) :
    (g.gather m).order = if m.id ∈ g.order then g.order else g.order ++ [m.id] := by
  simp only [gather, ← h.known, last?]

theorem Sound.gather (m : RecordMessage) : (g.gather m).Sound where
  distinct := by
    rw [h.order_gather]
    split
    · exact h.distinct
    · rename_i hnew
      exact List.concat_eq_append ▸ h.distinct.concat hnew
  known id := by
    rw [h.order_gather, last?_gather]
    split <;> split <;> simp_all [h.known]
  keyed id m' hm' := by
    rw [last?_gather] at hm'
    split at hm'
    · rename_i hid
      exact Option.some.inj hm' ▸ hid.symm
    · exact h.keyed id m' hm'

theorem Sound.drain_eq : drain g.order g.found = g.order.filterMap g.last? :=
  Gathered.drain_eq h.distinct g.found

theorem Sound.map_id_drain : (drain g.order g.found).map (·.id) = g.order := by
  have hlast : ∀ id ∈ g.order, (g.last? id).map (·.id) = some id := by
    intro id hid
    obtain ⟨m, hm⟩ := Option.isSome_iff_exists.mp ((h.known id).mpr hid)
    rw [hm, Option.map_some, h.keyed id m hm]
  rw [h.drain_eq, List.map_filterMap, List.filterMap_congr hlast, List.filterMap_some]

/-- One more message changes what is taken out in the end as `upsert` says. -/
theorem Sound.drain_gather (m : RecordMessage) :
    drain (g.gather m).order (g.gather m).found = upsert m (drain g.order g.found) := by
  have hids := h.map_id_drain
  have hself : (g.gather m).last? m.id = some m := by rw [last?_gather, if_pos rfl]
  have hother {order : List String} (hm : m.id ∉ order) :
      order.filterMap (g.gather m).last? = order.filterMap g.last? := by
    refine List.filterMap_congr fun id hid => ?_
    have hne : id ≠ m.id := fun hsame => hm (hsame ▸ hid)
    rw [last?_gather, if_neg hne]
  rw [(h.gather m).drain_eq, h.order_gather]
  by_cases hknown : m.id ∈ g.order
  · obtain ⟨before, after, horder⟩ := List.append_of_mem hknown
    obtain ⟨old, hold⟩ := Option.isSome_iff_exists.mp ((h.known m.id).mpr hknown)
    have hdistinct := h.distinct
    rw [horder, List.nodup_middle, List.nodup_cons, List.mem_append, not_or] at hdistinct
    have hdrained : drain g.order g.found =
        before.filterMap g.last? ++ old :: after.filterMap g.last? := by
      rw [h.drain_eq, horder, List.filterMap_append, List.filterMap_cons_some hold]
    rw [hdrained] at hids ⊢
    rw [if_pos hknown, horder, List.filterMap_append, List.filterMap_cons_some hself,
      hother hdistinct.1.1, hother hdistinct.1.2,
      upsert_of_known (hids ▸ h.distinct) (h.keyed m.id old hold)]
  · rw [if_neg hknown, List.filterMap_append, hother hknown, List.filterMap_cons_some hself,
      ← h.drain_eq, upsert_of_new (by rwa [hids]), List.filterMap_nil]

end Gathered

theorem IsLast.self (told : List RecordMessage) (m : RecordMessage) : IsLast (told ++ [m]) m :=
  ⟨told, [], rfl, nofun⟩

theorem IsLast.concat {told : List RecordMessage} {m m' : RecordMessage} (h : IsLast told m')
    (hid : m'.id ≠ m.id) : IsLast (told ++ [m]) m' := by
  obtain ⟨before, after, rfl, hafter⟩ := h
  refine ⟨before, after ++ [m], by simp, fun later hlater => ?_⟩
  rcases List.mem_append.mp hlater with hlater | hlater
  · exact hafter later hlater
  · exact List.mem_singleton.mp hlater ▸ Ne.symm hid

theorem KeepsLast.nil : KeepsLast [] [] where
  distinct := List.nodup_nil
  complete _ := Iff.rfl
  last := nofun
  inOrder := List.Pairwise.nil

section InOrder

variable {ids kept : List String} (hsubset : kept ⊆ ids)
  (hinOrder : kept.Pairwise fun a b => ids.idxOf a < ids.idxOf b)

include hsubset hinOrder

theorem pairwise_idxOf_append (more : List String) :
    kept.Pairwise fun a b => (ids ++ more).idxOf a < (ids ++ more).idxOf b := by
  have hsame {id : String} (hid : id ∈ kept) : (ids ++ more).idxOf id = ids.idxOf id := by
    rw [List.idxOf_append, if_pos (hsubset hid)]
  exact hinOrder.imp_of_mem fun ha hb hlt => by rwa [hsame ha, hsame hb]

/-- What is seen for the first time comes last. -/
theorem pairwise_idxOf_concat {new : String} (hnew : new ∉ ids) :
    (kept ++ [new]).Pairwise fun a b => (ids ++ [new]).idxOf a < (ids ++ [new]).idxOf b := by
  rw [List.pairwise_append]
  refine ⟨pairwise_idxOf_append hsubset hinOrder [new], List.pairwise_singleton ..,
    fun a ha b hb => ?_⟩
  rw [List.mem_singleton.mp hb, List.idxOf_append, List.idxOf_append, if_pos (hsubset ha),
    if_neg hnew]
  exact Nat.lt_add_left _ (List.idxOf_lt_length_of_mem (hsubset ha))

end InOrder

theorem KeepsLast.concat {told found : List RecordMessage} (h : KeepsLast told found)
    (m : RecordMessage) : KeepsLast (told ++ [m]) (upsert m found) := by
  have hids := map_id_upsert m found
  have hsubset : found.map (·.id) ⊆ told.map (·.id) := fun id => (h.complete id).mp
  have htold : (told ++ [m]).map (·.id) = told.map (·.id) ++ [m.id] := List.map_append
  have hlast : ∀ m' ∈ upsert m found, IsLast (told ++ [m]) m' := by
    intro m' hm'
    rcases mem_upsert h.distinct hm' with rfl | ⟨hold, hid⟩
    · exact .self told m'
    · exact (h.last m' hold).concat hid
  -- A known record keeps its place, a new one comes last.
  by_cases hknown : m.id ∈ found.map (·.id)
  · rw [if_pos hknown] at hids
    refine ⟨hids ▸ h.distinct, fun id => ?_, hlast, ?_⟩
    · rw [hids, htold, List.mem_append, List.mem_singleton, ← h.complete,
        or_iff_left_of_imp fun hsame => hsame ▸ hknown]
    · rw [hids, htold]
      exact pairwise_idxOf_append hsubset h.inOrder [m.id]
  · rw [if_neg hknown] at hids
    refine ⟨?_, fun id => ?_, hlast, ?_⟩
    · rw [hids, List.nodup_append]
      refine ⟨h.distinct, List.pairwise_singleton .., fun a ha b hb hsame => ?_⟩
      exact hknown (List.mem_singleton.mp hb ▸ hsame ▸ ha)
    · rw [hids, htold, List.mem_append, List.mem_append, h.complete]
    · rw [hids, htold]
      exact pairwise_idxOf_concat hsubset h.inOrder (mt (h.complete m.id).mpr hknown)

/-- Both structures together are filled as if there were only the list that comes of them. -/
theorem latest_eq_foldl (messages : List Message) :
    latest messages =
      (messages.filterMap Message.record?).foldl (fun found m => upsert m found) [] := by
  have hgathered (told : List RecordMessage) :
      let g := told.foldl Gathered.gather {}
      g.Sound ∧ Gathered.drain g.order g.found =
        told.foldl (fun found m => upsert m found) [] := by
    induction told using List.reverseRecOn with
    | nil => exact ⟨.nil, rfl⟩
    | append_singleton told m ih =>
      obtain ⟨hsound, hdrain⟩ := ih
      simp only [List.foldl_append, List.foldl_cons, List.foldl_nil]
      exact ⟨hsound.gather m, by rw [hsound.drain_gather m, hdrain]⟩
  exact (hgathered _).2

theorem latest_concat (delivered : List Message) (m : RecordMessage) :
    latest (delivered ++ [.record m]) = upsert m (latest delivered) := by
  simp [latest_eq_foldl, Message.record?]

theorem latest_append_run (before after : List Message) (run : RunMessage) :
    latest (before ++ .run run :: after) = latest (before ++ after) := by
  rw [latest, latest, List.filterMap_append, List.filterMap_append, List.filterMap_cons_none rfl]

theorem keepsLast_latest (delivered : List Message) :
    KeepsLast (delivered.filterMap Message.record?) (latest delivered) := by
  induction delivered using List.reverseRecOn with
  | nil => exact .nil
  | append_singleton delivered m ih =>
    cases m with
    | record m =>
      rw [latest_concat, List.filterMap_append]
      exact ih.concat m
    | run run =>
      rw [latest_append_run, List.append_nil, List.filterMap_append, List.filterMap_cons_none rfl]
      simpa using ih

theorem map_id_latest (messages : List Message) :
    (latest messages).map (·.id) =
      ((messages.filterMap Message.record?).map (·.id)).eraseDups := by
  rw [latest_eq_foldl]
  induction messages.filterMap Message.record? using List.reverseRecOn with
  | nil => rfl
  | append_singleton told m ih =>
    have hmem : m.id ∈ (told.map (·.id)).eraseDups ↔ m.id ∈ told.map (·.id) := List.mem_eraseDups
    rw [List.foldl_append, List.foldl_cons, List.foldl_nil, map_id_upsert, ih, List.map_append,
      List.eraseDups_append]
    simp only [hmem]
    split
    · rename_i hknown
      rw [List.map_singleton, List.removeAll, List.filter_cons_of_neg (by simpa using hknown)]
      simp
    · rename_i hnew
      rw [List.map_singleton, List.removeAll, List.filter_cons_of_pos (by simpa using hnew)]
      simp [List.eraseDups_cons]

theorem find?_latest (messages : List Message) (id : String) :
    (latest messages).find? (·.id = id) =
      ((messages.filterMap Message.record?).filter (·.id = id)).getLast? := by
  rw [latest_eq_foldl]
  induction messages.filterMap Message.record? using List.reverseRecOn with
  | nil => rfl
  | append_singleton told m ih =>
    rw [List.foldl_append, List.foldl_cons, List.foldl_nil, find?_upsert, ih, List.filter_append]
    by_cases hid : m.id = id <;> simp [hid]

/-- However messages about records and about the run are delivered, the latest ones are the last
about each record, in the order in which the records were told of first. Only messages about
records count. One more of them takes the place of the one about its record, or comes at the end if
there is none. -/
theorem latest_delivered (j : Journal) :
    let found := latest (Notifier.collecting.kept j)
    KeepsLast j.recordMessages found ∧
      (∀ (before after : Journal) run, j = before ++ .message (.run run) :: after →
        found = latest (Notifier.collecting.kept (before ++ after))) ∧
      ∀ m,
        let found' := latest (Notifier.collecting.kept (j ++ [.message (.record m)]))
        (m.id ∉ found.map (·.id) → found' = found ++ [m]) ∧
          ∀ before old after, found = before ++ old :: after → old.id = m.id →
            found' = before ++ m :: after := by
  intro found
  have hkeeps : KeepsLast j.recordMessages found := keepsLast_latest j.messages
  refine ⟨hkeeps, ?_, fun m => ?_⟩
  · rintro before after run rfl
    calc latest (Notifier.collecting.kept (before ++ .message (.run run) :: after))
      _ = latest (before.messages ++ .run run :: after.messages) :=
        congrArg latest (Journal.messages_append ..)
      _ = latest (before.messages ++ after.messages) := latest_append_run ..
      _ = latest (Notifier.collecting.kept (before ++ after)) :=
        congrArg latest (Journal.messages_append ..).symm
  · intro found'
    have hupsert : found' = upsert m found := by
      rw [← latest_concat]
      exact congrArg latest (Journal.messages_append ..)
    refine ⟨fun hnew => hupsert.trans (upsert_of_new hnew), fun before old after heq hid => ?_⟩
    rw [hupsert, heq]
    exact upsert_of_known (heq ▸ hkeeps.distinct) hid

/-- Two records are told of with a message about the run in between. Then the first one is told of
again, or a third one. -/
theorem latest_delivered_again :
    let told (id : String) (status : Status) : RecordMessage :=
      ⟨id, "a." ++ id, status, 0, "", .empty⟩
    let entry (id : String) (status : Status) : Entry := .message (.record (told id status))
    let run : Entry := .message (.run { run := "run", status := .running })
    let found (j : Journal) := latest (Notifier.collecting.kept j)
    let j : Journal := [entry "x" .notRun, run, entry "y" .notRun]
    found j = [told "x" .notRun, told "y" .notRun] ∧
      found j = found [entry "x" .notRun, entry "y" .notRun] ∧
      found (j ++ [entry "x" .passed]) = [told "x" .passed, told "y" .notRun] ∧
      found (j ++ [entry "z" .notRun]) = [told "x" .notRun, told "y" .notRun, told "z" .notRun] := by
  intro told entry run found j
  obtain ⟨-, hrun, hmore⟩ := latest_delivered j
  obtain ⟨-, hknown⟩ := hmore (told "x" .passed)
  obtain ⟨hnew, -⟩ := hmore (told "z" .notRun)
  have hfound : found j = [told "x" .notRun, told "y" .notRun] := by decide +kernel
  have hunknown : "z" ∉ (found j).map (·.id) := by
    rw [hfound]
    decide
  exact ⟨hfound, hrun [_] [_] _ rfl, hknown [] _ [_] hfound rfl,
    (hnew hunknown).trans (congrArg (· ++ [told "z" .notRun]) hfound)⟩

end Testbed
