import Mathlib.Data.List.Forall2
import Mathlib.Data.List.Infix
import Testbed.Proofs.Record.Facts
import Testbed.Proofs.Record.Log

/-! # The history of a record

What a record says of itself is told by what was done to it. Its status is the
one that was set last, and its log has a line for each text that came with a
status. Each time a status is set a message tells all of this, the log cut to a
limit, and at no other time.
-/

namespace Testbed

variable {σ : Type}

/-- The phase in front of what an interrupt says, if there is one. -/
def lead (phase : String) : String :=
  if phase = "" then "" else phase ++ " "

theorem Interrupt.verdict_phase (i : Interrupt) (ignoreFailure : Bool) (phase : String) :
    i.verdict ignoreFailure phase =
      ((i.verdict ignoreFailure "").1, lead phase ++ (i.verdict ignoreFailure "").2) := by
  have hlead : (if phase.isEmpty then "" else s!"{phase} ") = lead phase := by
    by_cases hphase : phase = "" <;> simp [lead, hphase, toString]
  obtain ⟨kind, detail⟩ := i
  simp only [Interrupt.verdict, hlead]
  cases kind <;> cases ignoreFailure <;> simp [toString, String.append_assoc]

namespace Record

/-- What can be done to a record, at any time. -/
inductive Step (σ : Type) where
  | set (status : Status) (text : String)
  | interrupt (i : Interrupt) (phase : String)
  | fact (key value : String)
  | bind (e : Environment σ)
  | check (e : Environment σ) (thorough : Bool)
  | wait (milliseconds : Nat)

def perform (r : Record σ) : Step σ → Task σ (Record σ)
  | .set status text => r.set status text
  | .interrupt i phase => r.interrupted i phase
  | .fact key value => pure (r.setFact key value)
  | .bind e => pure (r.bind e)
  | .check e thorough => Prod.snd <$> r.check e thorough
  | .wait milliseconds => (fun _ => r) <$> Task.wait milliseconds

/-- A record is made, and then steps are done to it. -/
def history (r : Record σ) (steps : List (Step σ)) : Task σ (Record σ) := do
  steps.foldlM perform (← r.start)

/-- The record with nothing noted in it yet. -/
def blank (r : Record σ) : Record σ :=
  { r with
    status := .notRun
    timer := {}
    log := ""
    facts := .empty
    environmentFacts := .empty
    finding := none }

namespace Step

/-- The step sets a status. -/
def speaks : Step σ → Bool
  | .set .. | .interrupt .. => true
  | _ => false

/-- The status that the step sets, and the text that goes with it. -/
def said? (ignoreFailure : Bool) : Step σ → Option (Status × String)
  | .set status text => some (status, text)
  | .interrupt i phase =>
    let plain := i.verdict ignoreFailure ""
    some (plain.1, lead phase ++ plain.2)
  | _ => none

def fact? (key : String) : Step σ → Option String
  | .fact k value => if key = k then some value else none
  | _ => none

def environmentFacts? : Step σ → Option Facts
  | .bind e => some e.facts
  | _ => none

/-- What the last step of a kind gives. -/
def last? {α : Type} (kind? : Step σ → Option α) (past : List (Step σ)) : Option α :=
  past.reverse.findSome? kind?

theorem last?_concat {α : Type} (kind? : Step σ → Option α) (past : List (Step σ))
    (step : Step σ) : last? kind? (past ++ [step]) = (kind? step).or (last? kind? past) := by
  rw [last?, List.reverse_concat, List.findSome?_cons]
  cases kind? step <;> rfl

variable (ignoreFailure : Bool) (past : List (Step σ))

/-- The status after some steps. -/
def statusAfter : Status :=
  ((last? (said? ignoreFailure) past).map Prod.fst).getD .notRun

/-- The log after some steps. -/
def logAfter : String :=
  joined ((past.filterMap (said? ignoreFailure)).map Prod.snd)

/-- What others are told under a key after some steps: a fact of the record itself, or else one of
the environment that it was bound to last. -/
def factAfter? (key : String) : Option String :=
  (last? (fact? key) past).or (((last? environmentFacts? past).getD .empty).find? key)

/-- The steps up to each message: none of them, and all up to one that sets a status. -/
def moments (steps : List (Step σ)) : List (List (Step σ)) :=
  steps.inits.filter fun past => past.getLast?.all speaks

theorem moments_concat (step : Step σ) : moments (past ++ [step]) =
    moments past ++ if step.speaks then [past ++ [step]] else [] := by
  rw [moments, List.inits_append, List.filter_append]
  cases hspeaks : step.speaks <;> simp [moments, hspeaks]

theorem length_moments (steps : List (Step σ)) :
    (moments steps).length = 1 + steps.countP speaks := by
  induction steps using List.reverseRecOn with
  | nil => rfl
  | append_singleton past step ih =>
    rw [moments_concat, List.length_append, ih, List.countP_append]
    cases hspeaks : step.speaks <;> simp [hspeaks]
    omega

theorem said?_eq_none {step : Step σ} (h : step.speaks = false) :
    step.said? ignoreFailure = none := by
  cases step <;> first | rfl | cases h

end Step

open Step

/-- All that a step does to a record. -/
structure Step.Changes (step : Step σ) (r r' : Record σ) : Prop where
  id : r'.id = r.id
  testCase : r'.testCase = r.testCase
  ignoreFailure : r'.ignoreFailure = r.ignoreFailure
  status : r'.status = ((step.said? r.ignoreFailure).map Prod.fst).getD r.status
  log : r'.log = appendLine r.log (((step.said? r.ignoreFailure).map Prod.snd).getD "")
  facts : ∀ key, r'.facts.find? key = (step.fact? key).or (r.facts.find? key)
  ordered : r.facts.Ordered → r'.facts.Ordered
  environmentFacts : r'.environmentFacts = step.environmentFacts?.getD r.environmentFacts

theorem changes_withStatus {r : Record σ} {step : Step σ} {status : Status} {text : String}
    (hsaid : step.said? r.ignoreFailure = some (status, text)) (hspeaks : step.speaks = true)
    (now : Nat) : step.Changes r (r.withStatus status text now) := by
  have hfact (key : String) : step.fact? key = none := by
    cases step <;> first | rfl | cases hspeaks
  have henvironment : step.environmentFacts? = none := by
    cases step <;> first | rfl | cases hspeaks
  exact
    { id := rfl
      testCase := rfl
      ignoreFailure := rfl
      status := by rw [hsaid]; rfl
      log := by rw [hsaid]; rfl
      facts := fun key => by rw [hfact]; rfl
      ordered := fun h => h
      environmentFacts := by rw [henvironment]; rfl }

theorem changes_perform (step : Step σ) (r : Record σ) (w : World σ) :
    step.Changes r ((r.perform step).run w).value := by
  cases step with
  | set status text => exact changes_withStatus rfl rfl w.now
  | interrupt i phase =>
    have hsaid : (Step.interrupt i phase : Step σ).said? r.ignoreFailure =
        some (i.verdict r.ignoreFailure phase) := by
      rw [i.verdict_phase r.ignoreFailure phase]
      rfl
    exact changes_withStatus hsaid rfl w.now
  | fact key value =>
    refine ⟨rfl, rfl, rfl, rfl, rfl, fun other => ?_, fun h => h.insert key value, rfl⟩
    change (r.facts.insert key value).find? other = _
    rw [Facts.find?_insert, Step.fact?]
    split <;> rfl
  | bind e => exact ⟨rfl, rfl, rfl, rfl, rfl, fun _ => rfl, fun h => h, rfl⟩
  | check e thorough =>
    cases thorough <;> exact ⟨rfl, rfl, rfl, rfl, rfl, fun _ => rfl, fun h => h, rfl⟩
  | wait => exact ⟨rfl, rfl, rfl, rfl, rfl, fun _ => rfl, fun h => h, rfl⟩

/-- Only a step that sets a status is told of, and what it has led to is told. -/
theorem messages_perform (step : Step σ) (r : Record σ) (w : World σ) :
    let run := (r.perform step).run w
    run.journal.messages = if step.speaks then [.record (run.value.message w.now)] else [] := by
  cases step <;> rfl

/-- The record is what the steps have made of the one at the start. -/
structure After (start : Record σ) (past : List (Step σ)) (r : Record σ) : Prop where
  id : r.id = start.id
  testCase : r.testCase = start.testCase
  ignoreFailure : r.ignoreFailure = start.ignoreFailure
  status : r.status = statusAfter start.ignoreFailure past
  log : r.log = logAfter start.ignoreFailure past
  facts : ∀ key, r.facts.find? key = last? (fact? key) past
  ordered : r.facts.Ordered
  environmentFacts : r.environmentFacts = (last? environmentFacts? past).getD .empty

theorem after_blank (r : Record σ) : r.blank.After [] r.blank where
  id := rfl
  testCase := rfl
  ignoreFailure := rfl
  status := rfl
  log := rfl
  facts _ := rfl
  ordered := Facts.ordered_empty
  environmentFacts := rfl

variable {start r r' : Record σ} {past : List (Step σ)} {step : Step σ}

theorem After.concat (h : start.After past r) (hstep : step.Changes r r') :
    start.After (past ++ [step]) r' where
  id := hstep.id.trans h.id
  testCase := hstep.testCase.trans h.testCase
  ignoreFailure := hstep.ignoreFailure.trans h.ignoreFailure
  status := by
    rw [hstep.status, h.ignoreFailure, h.status, statusAfter, statusAfter, last?_concat]
    cases step.said? start.ignoreFailure <;> rfl
  log := by
    rw [hstep.log, h.ignoreFailure, h.log, logAfter, appendLine_joined, logAfter,
      List.filterMap_append, List.map_append]
    cases hsaid : step.said? start.ignoreFailure <;> simp [hsaid, joined]
  facts key := by rw [hstep.facts, h.facts, last?_concat]
  ordered := hstep.ordered h.ordered
  environmentFacts := by
    rw [hstep.environmentFacts, h.environmentFacts, last?_concat]
    cases step.environmentFacts? <;> rfl

/-- So much of a log as messages show. -/
def shown (log : String) : String :=
  String.ofList (log.toList.take 2048)

/-- The message tells what the steps have made of the record at the start. -/
structure Tells (start : Record σ) (past : List (Step σ)) (m : RecordMessage) : Prop where
  id : m.id = start.id
  name : m.name = start.name
  status : m.status = statusAfter start.ignoreFailure past
  text : m.text = shown (logAfter start.ignoreFailure past)
  facts : ∀ key, m.facts.find? key = factAfter? past key

theorem After.tells (h : start.After past r) (now : Nat) : start.Tells past (r.message now) where
  id := h.id
  name := congrArg Case.fullName h.testCase
  status := h.status
  text := congrArg shown h.log
  facts key := by
    rw [message, Facts.find?_extend _ h.ordered, h.facts, h.environmentFacts, factAfter?]

/-- What a record tells while steps are done to it. -/
structure Chronicle (start : Record σ) (past : List (Step σ)) (r : Record σ)
    (told : List RecordMessage) : Prop where
  after : start.After past r
  tells : List.Forall₂ start.Tells (moments past) told
  current : ∃ last, told.getLast? = some last ∧ last.status = r.status ∧ last.text = shown r.log
  below : ∀ m ∈ told, m.text.toList <+: (shown r.log).toList
  growing : told.Pairwise fun earlier later => earlier.text.toList <+: later.text.toList

theorem Step.Changes.shown_prefix (h : step.Changes r r') :
    (shown r.log).toList <+: (shown r'.log).toList := by
  rw [h.log, shown, shown, String.toList_ofList, String.toList_ofList]
  exact (prefix_appendLine ..).take 2048

theorem Chronicle.quiet {told : List RecordMessage} (h : start.Chronicle past r told)
    (hstep : step.Changes r r') (hspeaks : step.speaks = false) :
    start.Chronicle (past ++ [step]) r' told where
  after := h.after.concat hstep
  tells := by simpa [moments_concat, hspeaks] using h.tells
  current := by
    have hsaid : step.said? r.ignoreFailure = none := said?_eq_none _ hspeaks
    have hstatus : r'.status = r.status := by rw [hstep.status, hsaid]; rfl
    have hlog : r'.log = r.log := by rw [hstep.log, hsaid]; rfl
    rw [hstatus, hlog]
    exact h.current
  below m hm := (h.below m hm).trans hstep.shown_prefix
  growing := h.growing

theorem Chronicle.spoken {told : List RecordMessage} (h : start.Chronicle past r told)
    (hstep : step.Changes r r') (hspeaks : step.speaks = true) (now : Nat) :
    start.Chronicle (past ++ [step]) r' (told ++ [r'.message now]) where
  after := h.after.concat hstep
  tells := by
    rw [moments_concat, if_pos hspeaks]
    exact List.rel_append h.tells (.cons ((h.after.concat hstep).tells now) .nil)
  current := ⟨r'.message now, List.getLast?_concat .., rfl, rfl⟩
  below m hm := by
    rcases List.mem_append.mp hm with hm | hm
    · exact (h.below m hm).trans hstep.shown_prefix
    · rw [List.mem_singleton.mp hm]
      exact List.prefix_rfl
  growing := by
    refine List.pairwise_append.mpr
      ⟨h.growing, List.pairwise_singleton .., fun m hm last hlast => ?_⟩
    rw [List.mem_singleton.mp hlast]
    exact (h.below m hm).trans hstep.shown_prefix

theorem chronicle_blank (r : Record σ) (now : Nat) :
    r.blank.Chronicle [] r.blank [r.blank.message now] where
  after := after_blank r
  tells := .cons ((after_blank r).tells now) .nil
  current := ⟨_, rfl, rfl, rfl⟩
  below m hm := by
    rw [List.mem_singleton.mp hm]
    exact List.prefix_rfl
  growing := List.pairwise_singleton ..

theorem run_history_concat (r : Record σ) (past : List (Step σ)) (step : Step σ) (w : World σ) :
    let before := (r.history past).run w
    let last := (before.value.perform step).run before.world
    (r.history (past ++ [step])).run w =
      ⟨last.value, before.journal ++ last.journal, last.world⟩ := by
  simp [history, List.foldlM_append]

theorem chronicle_history (r : Record σ) (steps : List (Step σ)) (w : World σ) :
    let run := (r.blank.history steps).run w
    ∃ told, run.journal.messages = told.map .record ∧ r.blank.Chronicle steps run.value told := by
  induction steps using List.reverseRecOn with
  | nil => exact ⟨[r.blank.message w.now], rfl, chronicle_blank r w.now⟩
  | append_singleton past step ih =>
    obtain ⟨told, htold, hchronicle⟩ := ih
    have hstep := changes_perform step ((r.blank.history past).run w).value
      ((r.blank.history past).run w).world
    simp only [run_history_concat, Journal.messages_append, messages_perform, htold]
    cases hspeaks : step.speaks with
    | false => exact ⟨told, by simp, hchronicle.quiet hstep hspeaks⟩
    | true =>
      refine ⟨_, ?_, hchronicle.spoken hstep hspeaks ((r.blank.history past).run w).world.now⟩
      simp

theorem withStatus_self (r : Record σ) (now : Nat) : r.withStatus r.status "" now = r := by
  simp [Record.withStatus, appendLine]

/-- Whatever is done to a fresh record, its log is made of the texts that came with statuses. It is
told of once at the start and each time that a status is set, always as it is then, so what was told
last is up to date, and each text goes on where the one before it ended. To set the same status
again without a text changes nothing. -/
theorem history_told (r : Record σ) (steps : List (Step σ)) (w : World σ) :
    let run := (r.blank.history steps).run w
    ∃ told, run.journal.messages = told.map .record ∧
      run.value.status = statusAfter r.ignoreFailure steps ∧
      run.value.log = logAfter r.ignoreFailure steps ∧
      told.length = 1 + steps.countP speaks ∧
      List.Forall₂ r.blank.Tells (moments steps) told ∧
      (∃ last, told.getLast? = some last ∧ last.status = run.value.status ∧
        last.text = shown run.value.log) ∧
      (told.Pairwise fun earlier later => earlier.text.toList <+: later.text.toList) ∧
      ∀ later, ((run.value.set run.value.status "").run later).value = run.value := by
  intro run
  obtain ⟨told, htold, hchronicle⟩ := chronicle_history r steps w
  refine ⟨told, htold, hchronicle.after.status, hchronicle.after.log, ?_, hchronicle.tells,
    hchronicle.current, hchronicle.growing, fun later => ?_⟩
  · rw [← hchronicle.tells.length_eq, length_moments]
  · exact withStatus_self run.value later.now

/-- So many times a character of two bytes. -/
def accents (n : Nat) : String :=
  String.ofList (List.replicate n 'é')

theorem shown_accents_append {n : Nat} (hn : 2048 ≤ n) (rest : String) :
    shown (accents n ++ rest) = accents 2048 := by
  have hlength : 2048 ≤ (List.replicate n 'é').length := by rwa [List.length_replicate]
  rw [shown, accents, accents, String.toList_append, String.toList_ofList,
    List.take_append_of_le_length hlength, List.take_replicate, Nat.min_eq_left hn]

theorem accents_ne_empty {n : Nat} (hn : 0 < n) : accents n ≠ "" := by
  intro h
  have hlength := congrArg String.length h
  simp [accents] at hlength
  omega

/-- A text that is too long to be told in full, and a failure behind it. -/
def lengthy : List (Step Unit) :=
  [.set .running (accents 3000), .interrupt (.failed "boom") "late"]

/-- What comes behind the limit does not show in messages. -/
theorem history_told_lengthy :
    let r : Record Unit := { id := "a.x", testCase := { suiteName := "a", name := "x" } }
    let run := (r.blank.history lengthy).run ⟨(), 0⟩
    run.value.log = accents 3000 ++ "\nlate failed: boom" ∧
      ∃ told : List RecordMessage, run.journal.messages = told.map .record ∧
        told.map (fun m => (m.status, m.text)) =
          [(.notRun, ""), (.running, accents 2048), (.failed, accents 2048)] := by
  intro r run
  obtain ⟨told, htold, -, hlog, -, htells, -⟩ := history_told r lengthy ⟨(), 0⟩
  have hne : accents 3000 ≠ "" := accents_ne_empty (by decide)
  have hlog₁ : logAfter false (lengthy.take 1) = accents 3000 ++ "" := by
    simp [lengthy, logAfter, joined, said?, hne]
  have hlog₂ : logAfter false lengthy = accents 3000 ++ "\nlate failed: boom" := by
    simp [lengthy, logAfter, joined, said?, lead, hne, Interrupt.verdict, Interrupt.failed,
      toString, String.append_assoc]
  have hmoments : moments lengthy = [[], lengthy.take 1, lengthy] := rfl
  rw [hmoments] at htells
  rcases htells with - | ⟨h₀, - | ⟨h₁, - | ⟨h₂, - | -⟩⟩⟩
  refine ⟨hlog.trans hlog₂, _, htold, ?_⟩
  simp only [List.map_cons, List.map_nil, h₀.status, h₀.text, h₁.status, h₁.text, h₂.status,
    h₂.text]
  have hignored : r.blank.ignoreFailure = false := rfl
  rw [hignored, hlog₁, hlog₂, shown_accents_append (by decide), shown_accents_append (by decide)]
  rfl

end Record

end Testbed
