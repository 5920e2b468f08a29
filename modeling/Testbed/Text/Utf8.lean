/-! # Reading bytes as UTF-8

Bytes that are no UTF-8 are read as replacement characters, one for each longest
run that could still have begun a character.
-/

namespace Testbed.Text.Utf8

/-- After a leading byte: how many bytes follow, and the inclusive range of the first of them. -/
def lead (b : UInt8) : Option (Nat × UInt8 × UInt8) :=
  if 0xc2 ≤ b && b ≤ 0xdf then some (1, 0x80, 0xbf)
  else if b = 0xe0 then some (2, 0xa0, 0xbf)
  else if b = 0xed then some (2, 0x80, 0x9f)
  else if 0xe1 ≤ b && b ≤ 0xef then some (2, 0x80, 0xbf)
  else if b = 0xf0 then some (3, 0x90, 0xbf)
  else if 0xf1 ≤ b && b ≤ 0xf3 then some (3, 0x80, 0xbf)
  else if b = 0xf4 then some (3, 0x80, 0x8f)
  else none

/-- The bits of a leading byte that belong to the code point. -/
def leadBits (following : Nat) (b : UInt8) : Nat :=
  b.toNat % (1 <<< (6 - following))

/-- Reads the bytes that follow a leading one, up to the first one that cannot follow. -/
def follow : Nat → UInt8 → UInt8 → Nat → List UInt8 → Option Nat × List UInt8
  | 0, _, _, value, bytes => (some value, bytes)
  | _ + 1, _, _, _, [] => (none, [])
  | n + 1, low, high, value, b :: rest =>
    if low ≤ b && b ≤ high then follow n 0x80 0xbf (value * 64 + b.toNat % 64) rest
    else (none, b :: rest)

theorem length_follow_le (n : Nat) (low high : UInt8) (value : Nat) (bytes : List UInt8) :
    (follow n low high value bytes).2.length ≤ bytes.length := by
  induction bytes generalizing n low high value with
  | nil => cases n <;> simp [follow]
  | cons b rest ih =>
    cases n with
    | zero => simp [follow]
    | succ n =>
      rw [follow]
      split
      · exact Nat.le_succ_of_le (ih ..)
      · simp

def replacement : Char :=
  '\ufffd'

def decode : List UInt8 → List Char
  | [] => []
  | b :: rest =>
    if b < 0x80 then Char.ofNat b.toNat :: decode rest
    else
      match lead b with
      | none => replacement :: decode rest
      | some (n, low, high) =>
        let read := follow n low high (leadBits n b) rest
        have := length_follow_le n low high (leadBits n b) rest
        (read.1.elim replacement Char.ofNat) :: decode read.2
termination_by bytes => bytes.length

def decodeString (bytes : List UInt8) : String :=
  String.ofList (decode bytes)

end Testbed.Text.Utf8
