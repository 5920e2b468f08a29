import Mathlib.Data.List.Nodup
import Testbed.Proofs.Digest.Hex
import Testbed.Proofs.Run.Order

/-! # When identifiers collide

No two pairs of a case and an iteration are digested as the same bytes: a name
may have any lines, but the last line feed stands before the number. Identifiers
are therefore equal only if digests of different bytes begin alike.
-/

namespace Testbed

variable {σ : Type}

/-- Lists are taken apart at the last mark. -/
theorem append_mark_inj {α : Type} {mark : α} {xs xs' ys ys' : List α} (hys : mark ∉ ys)
    (hys' : mark ∉ ys') : xs ++ mark :: ys = xs' ++ mark :: ys' ↔ xs = xs' ∧ ys = ys' := by
  have hlast {between ys ys' : List α} (hys : mark ∉ ys)
      (h : mark :: ys = between ++ mark :: ys') : between = [] ∧ ys = ys' := by
    cases between with
    | nil => exact ⟨rfl, (List.cons.inj h).2⟩
    | cons c between =>
      have hmem : mark ∈ between ++ mark :: ys' := List.mem_append_right _ List.mem_cons_self
      exact absurd ((List.cons.inj h).2 ▸ hmem) hys
  constructor
  · intro h
    rcases List.append_eq_append_iff.mp h with ⟨between, rfl, hrest⟩ | ⟨between, rfl, hrest⟩
    · obtain ⟨rfl, rfl⟩ := hlast hys hrest
      exact ⟨(List.append_nil xs).symm, rfl⟩
    · obtain ⟨rfl, rfl⟩ := hlast hys' hrest
      exact ⟨List.append_nil xs', rfl⟩
  · rintro ⟨rfl, rfl⟩
    rfl

theorem toList_loop_bytes (bytes : ByteArray) (i : Nat) (seen : List UInt8) :
    ByteArray.toList.loop bytes i seen = seen.reverse ++ bytes.data.toList.drop i := by
  induction i, seen using ByteArray.toList.loop.induct bytes with
  | case1 i seen hi ih =>
    have hlength : i < bytes.data.toList.length := hi
    have hget : bytes.get! i = bytes.data.toList[i] := getElem!_pos bytes.data i hi
    rw [ByteArray.toList.loop, if_pos hi, ih, List.reverse_cons, List.append_assoc,
      List.drop_eq_getElem_cons hlength, hget, List.singleton_append]
  | case2 i seen hi =>
    have hlength : bytes.data.toList.length ≤ i := Nat.not_lt.mp hi
    rw [ByteArray.toList.loop, if_neg hi, List.drop_eq_nil_of_le hlength, List.append_nil]

theorem toList_bytes (bytes : ByteArray) : bytes.toList = bytes.data.toList := by
  rw [ByteArray.toList, toList_loop_bytes, List.reverse_nil, List.nil_append, List.drop_zero]

theorem toList_toUTF8_inj {s t : String} : s.toUTF8.toList = t.toUTF8.toList ↔ s = t := by
  rw [toList_bytes, toList_bytes, Array.toList_inj, ← String.toByteArray_inj, ByteArray.ext_iff]
  rfl

namespace RecordId

open Digest

/-- The bytes that are digested. -/
def digested (run fullName : String) (iteration : Nat) : List UInt8 :=
  (preimage run fullName iteration).toUTF8.toList

theorem toList_preimage (run fullName : String) (iteration : Nat) :
    (preimage run fullName iteration).toList =
      run.toList ++ '\n' :: (fullName.toList ++ '\n' :: Nat.toDigits 10 iteration) := by
  have hparts : preimage run fullName iteration =
      run ++ "\n" ++ fullName ++ "\n" ++ String.ofList (Nat.toDigits 10 iteration) := rfl
  simp [hparts]

theorem feed_notMem_toDigits (n : Nat) : '\n' ∉ Nat.toDigits 10 n := fun h =>
  absurd (Nat.isDigit_of_mem_toDigits (by decide) (by decide) h) (by decide)

theorem preimage_inj {run fullName fullName' : String} {iteration iteration' : Nat} :
    preimage run fullName iteration = preimage run fullName' iteration' ↔
      fullName = fullName' ∧ iteration = iteration' := by
  constructor
  · intro h
    have hlists := congrArg String.toList h
    rw [toList_preimage, toList_preimage, List.append_cancel_left_eq, List.cons.injEq,
      append_mark_inj (feed_notMem_toDigits _) (feed_notMem_toDigits _)] at hlists
    obtain ⟨-, hname, hdigits⟩ := hlists
    refine ⟨String.toList_inj.mp hname, ?_⟩
    calc iteration = Nat.ofDigitChars 10 (Nat.toDigits 10 iteration) 0 :=
          Nat.ofDigitChars_ten_toDigits.symm
      _ = Nat.ofDigitChars 10 (Nat.toDigits 10 iteration') 0 := by rw [hdigits]
      _ = iteration' := Nat.ofDigitChars_ten_toDigits
  · rintro ⟨rfl, rfl⟩
    rfl

theorem digested_injective (run : String) :
    Function.Injective fun job : String × Nat => digested run job.1 job.2 := by
  intro job job' h
  obtain ⟨hname, hiteration⟩ := preimage_inj.mp (toList_toUTF8_inj.mp h)
  exact Prod.ext hname hiteration

variable (digest : List UInt8 → Vector UInt8 32) (run : String)

/-- The bytes of the digest that an identifier shows. -/
def shown (fullName : String) (iteration : Nat) : List UInt8 :=
  (digest (digested run fullName iteration)).toList.take 8

theorem ofDigest_eq (fullName : String) (iteration : Nat) :
    ofDigest digest run fullName iteration =
      String.ofList (hex (shown digest run fullName iteration)) := by
  rw [shown, ← take_hex]
  rfl

theorem ofDigest_eq_iff {fullName fullName' : String} {iteration iteration' : Nat} :
    ofDigest digest run fullName iteration = ofDigest digest run fullName' iteration' ↔
      shown digest run fullName iteration = shown digest run fullName' iteration' := by
  rw [ofDigest_eq, ofDigest_eq, String.ofList_inj, hex_injective.eq_iff]

/-- An identifier is a beginning of the text of the digest: sixteen characters of one byte each. -/
theorem ofDigest_cut (fullName : String) (iteration : Nat) :
    ∃ rest, String.ofList (hex (digest (digested run fullName iteration)).toList) =
        ofDigest digest run fullName iteration ++ String.ofList rest ∧
      (ofDigest digest run fullName iteration).length = 16 ∧
      (ofDigest digest run fullName iteration).utf8ByteSize = 16 := by
  have hlength : (hex (shown digest run fullName iteration)).length = 16 := by
    rw [length_hex, shown, List.length_take, Vector.length_toList]
    rfl
  refine ⟨(hex (digest (digested run fullName iteration)).toList).drop 16, ?_, ?_, ?_⟩
  · rw [ofDigest, ← String.ofList_append]
    exact congrArg String.ofList (List.take_append_drop 16 _).symm
  · rw [ofDigest_eq, String.length_ofList, hlength]
  · rw [ofDigest_eq, utf8ByteSize_of_hexDigits fun _ => mem_hexDigits_of_mem_hex, hlength]

/-- The names of the cases of a run, each with the numbers of its iterations. -/
def jobs (settings : Run.Settings) (cases : List (Case σ)) : List (String × Nat) :=
  cases.map (·.fullName) ×ˢ List.range (max settings.times.toNat 1)

theorem nodup_ids_records_iff (settings : Run.Settings) (cases : List (Case σ)) :
    ((settings.records cases).map (·.id)).Nodup ↔
      ((jobs settings cases).map fun job =>
        shown sha256 settings.runName job.1 job.2).Nodup := by
  have hids : (settings.records cases).map (·.id) =
      ((jobs settings cases).map fun job => shown sha256 settings.runName job.1 job.2).map
        fun bytes => String.ofList (hex bytes) := by
    rw [Run.Settings.ids_records, jobs, List.map_map]
    simp only [SProd.sprod, List.product, List.flatMap_map, List.map_flatMap, List.map_map]
    refine List.flatMap_congr fun c _ => List.map_congr_left fun iteration _ => ?_
    exact ofDigest_eq sha256 settings.runName c.fullName iteration
  have hinjective : Function.Injective fun bytes => String.ofList (hex bytes) :=
    fun _ _ h => hex_injective (String.ofList_inj.mp h)
  rw [hids, List.nodup_map_iff hinjective]

theorem nodup_digested (settings : Run.Settings) {cases : List (Case σ)}
    (hcases : (cases.map (·.fullName)).Nodup) :
    ((jobs settings cases).map fun job => digested settings.runName job.1 job.2).Nodup :=
  (hcases.product List.nodup_range).map (digested_injective settings.runName)

/-- Whatever the digest is, in a run different cases or iterations are digested as different bytes,
and have the same identifier exactly if the digests of these bytes begin with the same eight bytes:
the text of a digest can be read back, and an identifier is what stands in front of a boundary
between two of its characters. So the records of different cases have different identifiers exactly
if no two of the digests begin alike. -/
theorem ofDigest_collides :
    (Function.Injective fun job : String × Nat => digested run job.1 job.2) ∧
      (∀ fullName iteration fullName' iteration',
        ofDigest digest run fullName iteration = ofDigest digest run fullName' iteration' ↔
          (digest (digested run fullName iteration)).toList.take 8 =
            (digest (digested run fullName' iteration')).toList.take 8) ∧
      (∀ fullName iteration, ∃ rest,
        String.ofList (hex (digest (digested run fullName iteration)).toList) =
            ofDigest digest run fullName iteration ++ String.ofList rest ∧
          (ofDigest digest run fullName iteration).length = 16 ∧
          (ofDigest digest run fullName iteration).utf8ByteSize = 16) ∧
      (Function.Injective hex ∧ ∀ bytes, (hex bytes).length = 2 * bytes.length ∧
        (∀ c ∈ hex bytes, c ∈ hexDigits) ∧ unhex? (hex bytes) = some bytes) ∧
      ∀ (settings : Run.Settings) (cases : List (Case σ)),
        (((settings.records cases).map (·.id)).Nodup ↔
          ((jobs settings cases).map fun job =>
            shown sha256 settings.runName job.1 job.2).Nodup) ∧
        ((cases.map (·.fullName)).Nodup →
          ((jobs settings cases).map fun job =>
            digested settings.runName job.1 job.2).Nodup) := by
  refine ⟨digested_injective run, fun _ _ _ _ => ofDigest_eq_iff digest run,
    ofDigest_cut digest run, ⟨hex_injective, fun bytes => ⟨length_hex bytes, ?_, ?_⟩⟩,
    fun settings cases => ⟨nodup_ids_records_iff settings cases, nodup_digested settings⟩⟩
  · exact fun c => mem_hexDigits_of_mem_hex
  · exact unhex?_hex bytes

end RecordId

end Testbed
