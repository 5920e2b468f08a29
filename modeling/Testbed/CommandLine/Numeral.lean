/-! # Numbers on the command line

Decimal digits, with a sign in front where one is taken.
-/

namespace Testbed.CommandLine

def digits? : List Char → Option Nat
  | [] => none
  | cs =>
    if cs.all Char.isDigit then
      some (cs.foldl (fun n c => 10 * n + (c.toNat - '0'.toNat)) 0)
    else none

/-- A number that fits in 32 bits; a minus sign is taken, which leaves zero. -/
def word? (text : String) : Option UInt32 :=
  let n? := match text.toList with
    | '-' :: rest => (digits? rest).filter (· = 0)
    | '+' :: rest => digits? rest
    | cs => digits? cs
  n?.bind fun n => if n < UInt32.size then some (UInt32.ofNat n) else none

/-- A number that fits in 64 bits; no minus sign is taken. -/
def longWord? (text : String) : Option Nat :=
  let n? := match text.toList with
    | '+' :: rest => digits? rest
    | cs => digits? cs
  n?.filter (· < UInt64.size)

end Testbed.CommandLine
