import Testbed.Digest.Hex

/-! # Reading hexadecimal texts

The text of some bytes can be read back, so no other bytes have the same text. A
beginning of the text, cut between two bytes, is the text of a beginning of the
bytes, and each of its characters takes one byte itself.
-/

namespace Testbed.Digest

def hexDigits : List Char :=
  "0123456789abcdef".toList

/-- Reads two digits for each byte; other characters and a digit that is left over are refused. -/
def unhex? : List Char → Option (List UInt8)
  | [] => some []
  | [_] => none
  | high :: low :: rest => do
    let high ← hexDigits.idxOf? high
    let low ← hexDigits.idxOf? low
    let bytes ← unhex? rest
    pure (UInt8.ofNat (16 * high + low) :: bytes)

theorem idxOf?_hexDigit {n : UInt8} (hn : n.toNat < 16) :
    hexDigits.idxOf? (hexDigit n) = some n.toNat := by
  have hdigits : ∀ k < 16, hexDigits.idxOf? (hexDigit (UInt8.ofNat k)) = some k := by decide
  simpa using hdigits n.toNat hn

theorem idxOf?_high (b : UInt8) :
    hexDigits.idxOf? (hexDigit (b >>> 4)) = some (b.toNat / 16) := by
  have htoNat : (b >>> 4).toNat = b.toNat / 16 := by
    rw [UInt8.toNat_shiftRight]
    exact Nat.shiftRight_eq_div_pow b.toNat 4
  have hb := b.toNat_lt
  rw [idxOf?_hexDigit (by omega), htoNat]

theorem idxOf?_low (b : UInt8) :
    hexDigits.idxOf? (hexDigit (b &&& 0x0f)) = some (b.toNat % 16) := by
  have htoNat : (b &&& 0x0f).toNat = b.toNat % 16 := by
    rw [UInt8.toNat_and]
    exact Nat.and_two_pow_sub_one_eq_mod b.toNat 4
  rw [idxOf?_hexDigit (by omega), htoNat]

theorem unhex?_hex (bytes : List UInt8) : unhex? (hex bytes) = some bytes := by
  induction bytes with
  | nil => rfl
  | cons b bytes ih =>
    have hhalves : UInt8.ofNat (16 * (b.toNat / 16) + b.toNat % 16) = b := by
      rw [Nat.div_add_mod, UInt8.ofNat_toNat]
    rw [hex_cons, unhex?, idxOf?_high, idxOf?_low, ih]
    exact congrArg (fun b => some (b :: bytes)) hhalves

theorem hex_injective : Function.Injective hex := by
  intro bytes bytes' h
  rw [← Option.some_inj, ← unhex?_hex, h, unhex?_hex]

theorem mem_hexDigits_of_mem_hex {bytes : List UInt8} {c : Char} (hc : c ∈ hex bytes) :
    c ∈ hexDigits := by
  obtain ⟨b, -, hc⟩ := List.mem_flatMap.mp hc
  rw [← List.isSome_idxOf?]
  rw [hexPair, List.mem_cons, List.mem_singleton] at hc
  rcases hc with rfl | rfl
  · rw [idxOf?_high, Option.isSome_some]
  · rw [idxOf?_low, Option.isSome_some]

theorem take_hex (bytes : List UInt8) (n : Nat) :
    (hex bytes).take (2 * n) = hex (bytes.take n) := by
  induction bytes generalizing n with
  | nil => simp
  | cons b bytes ih =>
    cases n with
    | zero => rfl
    | succ n => simp [Nat.mul_succ, ih]

theorem utf8Size_of_mem_hexDigits {c : Char} (hc : c ∈ hexDigits) : c.utf8Size = 1 := by
  have hall : hexDigits.all (fun c => c.utf8Size = 1) = true := by decide
  exact of_decide_eq_true (List.all_eq_true.mp hall c hc)

/-- A text of hexadecimal digits has as many bytes as it has characters. -/
theorem utf8ByteSize_of_hexDigits {cs : List Char} (hcs : ∀ c ∈ cs, c ∈ hexDigits) :
    (String.ofList cs).utf8ByteSize = cs.length := by
  rw [String.utf8ByteSize, String.toByteArray_ofList, List.utf8Encode, List.size_toByteArray]
  induction cs with
  | nil => rfl
  | cons c cs ih =>
    rw [List.forall_mem_cons] at hcs
    rw [List.flatMap_cons, List.length_append, ih hcs.2, String.length_utf8EncodeChar,
      utf8Size_of_mem_hexDigits hcs.1, List.length_cons, Nat.add_comm]

end Testbed.Digest
