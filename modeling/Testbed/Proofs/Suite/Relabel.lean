import Mathlib.Data.List.Forall2
import Testbed.Proofs.Suite.Protocol
import Testbed.Proofs.Suite.Verdict

/-! # Ignored failures

Whether failures of a record are ignored is seen by nobody but the record: it
gets the calls that it would get otherwise, and so do all others. Only if the
last try of its body fails plainly does it end under another status.
-/

namespace Testbed

variable {σ α : Type}

namespace Tried

variable {act : Action σ α} {n : Nat} {s : σ} {replies : List (Reply σ α)}

theorem eq_tries (h : Tried act n s replies) : replies = act.tries n s := by
  induction n generalizing s replies with
  | zero => exact absurd (List.eq_nil_of_length_eq_zero (Nat.le_zero.mp h.length_le)) h.ne_nil
  | succ n ih =>
    obtain ⟨reply, others, rfl⟩ := List.exists_cons_of_ne_nil h.ne_nil
    obtain ⟨rfl, hothers⟩ := List.cons.inj h.answered
    rw [Action.tries]
    rcases eq_or_ne others [] with rfl | hne
    · -- There was one try only: it succeeded, or no other was allowed.
      rcases h.ended with hlength | hlast
      · obtain rfl : n = 0 := by simpa using hlength.symm
        simp [Action.tries]
      · have hdone : (act s).interrupt? = none := hlast
        simp [hdone]
    · have hbefore := h.failed_before
      rw [List.dropLast_cons_of_ne_nil hne] at hbefore
      have hrest : Tried act n (act s).state others :=
        { answered := hothers
          ne_nil := hne
          length_le := Nat.le_of_succ_le_succ h.length_le
          failed_before := fun reply hreply => hbefore reply (List.mem_cons_of_mem _ hreply)
          ended := by
            rcases h.ended with hlength | hlast
            · exact .inl (Nat.succ.inj hlength)
            · rw [Reply.lastInterrupt?, List.getLast?_cons_of_ne_nil hne] at hlast
              exact .inr hlast }
      rw [if_pos (Option.isSome_iff_ne_none.mpr (hbefore _ List.mem_cons_self)), ← ih hrest]

theorem unique {replies' : List (Reply σ α)} (h : Tried act n s replies)
    (h' : Tried act n s replies') : replies' = replies :=
  h'.eq_tries.trans h.eq_tries.symm

end Tried

/-- Two lists that are related item by item show the same. -/
theorem map_eq_of_forall₂ {β γ : Type} {R : α → β → Prop} {f : α → γ} {g : β → γ} {xs : List α}
    {ys : List β} (h : List.Forall₂ R xs ys) (hR : ∀ x y, R x y → g y = f x) :
    ys.map g = xs.map f := by
  have hmaps : List.Forall₂ Eq (xs.map f) (ys.map g) :=
    List.forall₂_map_left_iff.mpr (List.forall₂_map_right_iff.mpr
      (h.imp fun x y hxy => (hR x y hxy).symm))
  rw [List.forall₂_eq_eq_eq] at hmaps
  exact hmaps.symm

namespace Record

/-- The records differ at most in whether failures are ignored. -/
def Relabelled (r r' : Record σ) : Prop :=
  ∃ ignoreFailure, r' = { r with ignoreFailure }

/-- How a record ends if the last try of its body has failed plainly. -/
def EndsFailed (start ended : Record σ) (detail : String) : Prop :=
  if start.ignoreFailure then
    ended.status = .attempted ∧ ended.log = joined [start.log, detail]
  else ended.status = .failed ∧ ended.log = joined [start.log, "failed: " ++ detail]

end Record

namespace Suite.Job

open Reply

variable {job : Job σ} {setupError : Option String} {setupFailed stopAsked : Bool} {b b' : Block σ}
  {r r' : Record σ} {s : σ}

/-- A block is determined by what is called and by the state from which it starts. -/
theorem Block.Follows.unique (hr : r.Relabelled r') (h : b.Follows job setupFailed r s)
    (h' : b'.Follows job setupFailed r' s) : b' = b := by
  obtain ⟨ignored, rfl⟩ := hr
  have hbefore : b'.before = b.before := by
    have hb := h.before
    have hb' := h'.before
    split at hb
    · rename_i hfailed
      rw [if_pos hfailed] at hb'
      rw [hb, hb']
    · rename_i hfailed
      rw [if_neg hfailed] at hb'
      exact hb.unique hb'
  have hbody : b'.body = b.body := by
    have hb := h.body
    have hb' := h'.body
    rw [hbefore] at hb'
    split at hb
    · rename_i hskipped
      rw [if_pos hskipped] at hb'
      rw [hb, hb']
    · rename_i hran
      rw [if_neg hran] at hb'
      exact hb.unique hb'
  have hafter : b'.after = b.after := by
    have hb' := h'.after
    rw [hbefore, hbody] at hb'
    exact h.after.unique hb'
  obtain ⟨_, _, _⟩ := b
  obtain ⟨_, _, _⟩ := b'
  congr

/-- What a block leads to does not depend on the flag unless the last try of the body has failed
plainly. -/
theorem verdict_relabelled (hr : r.Relabelled r')
    (hbody : ∀ detail, lastInterrupt? b.body ≠ some (.failed detail)) :
    verdict setupError r' b = verdict setupError r b := by
  obtain ⟨ignored, rfl⟩ := hr
  simp only [verdict]
  split
  · rfl
  · rfl
  · rcases hlast : lastInterrupt? b.body with - | ⟨kind, detail⟩
    · rfl
    · cases kind with
      | failed => exact absurd hlast (hbody detail)
      | _ => rfl

theorem verdict_of_failed (h : b.Follows job setupError.isSome r s) {detail : String}
    (hbody : lastInterrupt? b.body = some (.failed detail)) :
    verdict setupError r b =
      if r.ignoreFailure then (.attempted, detail) else (.failed, "failed: " ++ detail) := by
  have hran := h.body
  split at hran
  · rw [hran] at hbody
    cases hbody
  · rename_i hcalled
    obtain ⟨hsetup, hbefore⟩ := not_or.mp hcalled
    obtain rfl : setupError = none := by simpa using hsetup
    have hbefore : lastInterrupt? b.before = none := not_not.mp hbefore
    simp only [verdict, hbefore, hbody, bodyVerdict]
    cases r.ignoreFailure <;> simp [Interrupt.verdict, Interrupt.failed, toString]

/-- Two rounds of relabelled records in which the same is called and replied. -/
structure Round.Alike (round round' : Round σ) : Prop where
  record : round.record.Relabelled round'.record
  block : round'.block = round.block

theorem Round.Alike.acts {round round' : Round σ} (h : round.Alike round') :
    round'.block.acts job round'.record = round.block.acts job round.record := by
  obtain ⟨⟨ignored, hrecord⟩, hblock⟩ := h
  rw [hrecord, hblock]
  rfl

theorem Round.Alike.follows {round round' : Round σ} (h : round.Alike round')
    (hfollows : round.block.Follows job setupFailed round.record s) :
    round'.block.Follows job setupFailed round'.record s := by
  obtain ⟨⟨ignored, hrecord⟩, hblock⟩ := h
  rw [hrecord, hblock]
  exact ⟨hfollows.before, hfollows.body, hfollows.after⟩

theorem stopSeen_of_alike {rounds rounds' : List (Round σ)}
    (h : List.Forall₂ Round.Alike rounds rounds') :
    stopSeen stopAsked rounds' = stopSeen stopAsked rounds := by
  have hblocks := map_eq_of_forall₂ h fun _ _ halike => halike.block
  have hseen (rounds : List (Round σ)) : stopSeen stopAsked rounds =
      (!(rounds.map (·.block)).isEmpty && (stopAsked || (rounds.map (·.block)).any (·.stops))) := by
    rw [List.isEmpty_map, List.any_map]
    rfl
  rw [hseen, hseen, hblocks]

/-- Rounds are determined, up to the moments, by what is called in them. -/
theorem Rounds.alike {rounds rounds' : List (Round σ)} {rest rest' : List (Record σ)}
    (h : job.Rounds setupFailed stopAsked s rounds rest)
    (h' : job.Rounds setupFailed stopAsked s rounds' rest')
    (hrecords : List.Forall₂ Record.Relabelled (rounds.map (·.record) ++ rest)
      (rounds'.map (·.record) ++ rest')) :
    List.Forall₂ Round.Alike rounds rounds' ∧ List.Forall₂ Record.Relabelled rest rest' := by
  induction h generalizing rounds' rest' with
  | done =>
    cases h' with
    | done => exact ⟨.nil, .nil⟩
    | stopped => cases hrecords
    | next => cases hrecords
  | stopped hfollows hstop =>
    cases h' with
    | done => cases hrecords
    | stopped hfollows' =>
      obtain ⟨hrecord, hrest⟩ := List.forall₂_cons.mp hrecords
      exact ⟨.cons ⟨hrecord, hfollows.unique hrecord hfollows'⟩ .nil, hrest⟩
    | next hfollows' hgo =>
      obtain ⟨hrecord, -⟩ := List.forall₂_cons.mp hrecords
      rw [hfollows.unique hrecord hfollows', hstop] at hgo
      cases hgo
  | next hfollows hgo _ ih =>
    cases h' with
    | done => cases hrecords
    | stopped hfollows' hstop =>
      obtain ⟨hrecord, -⟩ := List.forall₂_cons.mp hrecords
      rw [hfollows.unique hrecord hfollows', hgo] at hstop
      cases hstop
    | next hfollows' _ hrounds =>
      obtain ⟨hrecord, hothers⟩ := List.forall₂_cons.mp hrecords
      have hblock := hfollows.unique hrecord hfollows'
      rw [hblock] at hrounds
      obtain ⟨halike, hrest⟩ := ih hrounds hothers
      exact ⟨.cons ⟨hrecord, hblock⟩ halike, hrest⟩

variable {round round' : Round σ}

theorem Round.endsFailed (h : round.block.Follows job setupError.isSome round.record s)
    {detail : String} (hbody : lastInterrupt? round.block.body = some (.failed detail)) :
    round.record.EndsFailed (round.final job setupError) detail := by
  have hverdict := verdict_of_failed h hbody
  obtain ⟨timer, hfinal⟩ := round.final_eq job setupError
  rw [Record.EndsFailed, hfinal, hverdict]
  split <;> exact ⟨rfl, rfl⟩

theorem Round.Alike.final (h : round.Alike round')
    (hbody : ∀ detail, lastInterrupt? round.block.body ≠ some (.failed detail)) :
    (round'.final job setupError).status = (round.final job setupError).status ∧
      (round'.final job setupError).log = (round.final job setupError).log := by
  have hverdict : verdict setupError round'.record round'.block =
      verdict setupError round.record round.block := by
    rw [h.block]
    exact verdict_relabelled h.record hbody
  have hlog : round'.record.log = round.record.log := by
    obtain ⟨ignored, hrecord⟩ := h.record
    rw [hrecord]
  obtain ⟨timer, hfinal⟩ := round.final_eq job setupError
  obtain ⟨timer', hfinal'⟩ := round'.final_eq job setupError
  rw [hfinal, hfinal', hverdict, hlog]
  exact ⟨rfl, rfl⟩

end Suite.Job

namespace Suite

open Job Reply

/-- Suite runs of records that differ in the flags do the same. Each record that is run ends as in
the other run, unless the last try of its body has failed plainly: then it ends as its own flag
says. -/
theorem runWith_relabelled (suite : String) (hooks : Hooks σ) (delay : Nat) (e : Environment σ)
    {records records' : List (Record σ)}
    (hrecords : List.Forall₂ Record.Relabelled records records') {w w' : World σ}
    (hstate : w'.state = w.state) :
    let job : Job σ := ⟨suite, hooks, e.markUsed, delay⟩
    let run := (runWith suite hooks delay e records).run w
    let run' := (runWith suite hooks delay e records').run w'
    let setup := job.answer .beforeSuite w.state
    let final (round : Round σ) := round.final job (setupText? setup)
    run'.journal.acts = run.journal.acts ∧ run'.value.1 = run.value.1 ∧
    run'.world.state = run.world.state ∧
    ∃ rounds rest rounds' rest',
      records = rounds.map (·.record) ++ rest ∧ records' = rounds'.map (·.record) ++ rest' ∧
      job.Rounds setup.interrupt?.isSome setup.stop setup.state rounds rest ∧
      run.value.2.1 = rounds.map final ++ rest ∧ run'.value.2.1 = rounds'.map final ++ rest' ∧
      List.Forall₂ Record.Relabelled rest rest' ∧
      List.Forall₂ (fun round round' => round.Alike round' ∧
        (∀ detail, lastInterrupt? round.block.body = some (.failed detail) →
          round.record.EndsFailed (final round) detail ∧
          round'.record.EndsFailed (final round') detail) ∧
        ((∀ detail, lastInterrupt? round.block.body ≠ some (.failed detail)) →
          (final round').status = (final round).status ∧ (final round').log = (final round).log))
        rounds rounds' := by
  intro job run run' setup final
  obtain ⟨rounds, rest, rfl, hrounds, houtcome, hvalue, hworld, hacts⟩ :=
    acts_runWith suite hooks delay e records w
  obtain ⟨rounds', rest', rfl, hrounds', houtcome', hvalue', hworld', hacts'⟩ :=
    acts_runWith suite hooks delay e records' w'
  rw [hstate] at hrounds' houtcome' hvalue' hworld' hacts'
  obtain ⟨halike, hrest⟩ := hrounds.alike hrounds' hrecords
  have hreplies : rounds'.flatMap (·.block.replies) = rounds.flatMap (·.block.replies) := by
    rw [List.flatMap_def, List.flatMap_def,
      map_eq_of_forall₂ halike fun _ _ h => congrArg Block.replies h.block]
  have hblocks : rounds'.flatMap (fun round => round.block.acts job round.record) =
      rounds.flatMap (fun round => round.block.acts job round.record) := by
    rw [List.flatMap_def, List.flatMap_def, map_eq_of_forall₂ halike fun _ _ h => h.acts]
  refine ⟨?_, ?_, ?_, rounds, rest, rounds', rest', rfl, rfl, hrounds, hvalue, hvalue', hrest, ?_⟩
  · rw [hacts', hacts, hreplies]
    simp only [job] at hblocks
    rw [hblocks]
  · rw [houtcome', houtcome, stopSeen_of_alike halike, halike.length_eq]
  · rw [hworld', hworld, hreplies]
  · have hfollowed := (List.forall₂_and_left _ _).mpr ⟨fun _ => hrounds.follows, halike⟩
    refine hfollowed.imp fun round round' ⟨⟨s, hfollows⟩, hpair⟩ => ⟨hpair, ?_, hpair.final⟩
    rw [← Option.isSome_map] at hfollows
    intro detail hbody
    have hbody' : lastInterrupt? round'.block.body = some (.failed detail) := by
      rw [hpair.block, hbody]
    exact ⟨Round.endsFailed hfollows hbody, Round.endsFailed (hpair.follows hfollows) hbody'⟩

/-- The record of a case with a body that fails. -/
def boom (ignoreFailure : Bool) : Record Unit where
  id := "a.x"
  testCase := { suiteName := "a", name := "x", body := fun _ => .raise (.failed "boom") }
  ignoreFailure

theorem runWith_relabelled_boom :
    let e : Environment Unit := { name := "local", stage := .connected, nodes := [] }
    let run (ignoreFailure : Bool) :=
      (runWith "a" Hooks.none 0 e [boom ignoreFailure]).run ⟨(), 0⟩
    let ends (ignoreFailure : Bool) :=
      (run ignoreFailure).value.2.1.map fun r => (r.status, r.log)
    (run true).journal.acts = (run false).journal.acts ∧
      (run true).value.1 = (run false).value.1 ∧
      ends false = [(.failed, "failed: boom")] ∧ ends true = [(.attempted, "boom")] := by
  intro e run ends
  obtain ⟨hacts, houtcome, -⟩ := runWith_relabelled "a" Hooks.none 0 e
    (.cons ⟨true, rfl⟩ .nil : List.Forall₂ Record.Relabelled [boom false] [boom true])
    (rfl : (⟨(), 0⟩ : World Unit).state = (⟨(), 0⟩ : World Unit).state)
  exact ⟨hacts, houtcome, by decide +kernel, by decide +kernel⟩

end Suite

end Testbed
