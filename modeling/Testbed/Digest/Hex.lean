/-! # Hexadecimal texts of bytes

Two lower-case digits for each byte, the high half first.
-/

namespace Testbed.Digest

/-- The digit of a half byte. -/
def hexDigit (n : UInt8) : Char :=
  if n ≤ 9 then Char.ofNat ('0'.toNat + n.toNat) else Char.ofNat ('a'.toNat + (n.toNat - 10))

def hexPair (b : UInt8) : List Char :=
  [hexDigit (b >>> 4), hexDigit (b &&& 0x0f)]

def hex (bytes : List UInt8) : List Char :=
  bytes.flatMap hexPair

@[simp] theorem hex_nil : hex [] = [] := rfl

@[simp] theorem hex_cons (b : UInt8) (bytes : List UInt8) :
    hex (b :: bytes) = hexDigit (b >>> 4) :: hexDigit (b &&& 0x0f) :: hex bytes := rfl

theorem length_hex (bytes : List UInt8) : (hex bytes).length = 2 * bytes.length := by
  induction bytes with
  | nil => rfl
  | cons b bytes ih => simp [ih]; omega

end Testbed.Digest
