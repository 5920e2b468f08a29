import Testbed.Machine.Program

/-! # Escapes

A backslash and what follows it stand for a byte, in the texts that programs write.
-/

namespace Testbed.Machine

namespace Escape

def octal? (c : Char) : Option Nat :=
  if '0' ≤ c && c ≤ '7' then some (c.toNat - '0'.toNat) else none

def decimal? (c : Char) : Option Nat :=
  if c.isDigit then some (c.toNat - '0'.toNat) else none

def hex? (c : Char) : Option Nat :=
  if '0' ≤ c && c ≤ '9' then some (c.toNat - '0'.toNat)
  else if 'a' ≤ c && c ≤ 'f' then some (c.toNat - 'a'.toNat + 10)
  else if 'A' ≤ c && c ≤ 'F' then some (c.toNat - 'A'.toNat + 10)
  else none

/-- Reads at most so many digits of a base. -/
def digits (base : Nat) (digit? : Char → Option Nat) : Nat → Nat → List Char → Nat × List Char
  | 0, value, cs => (value, cs)
  | _ + 1, value, [] => (value, [])
  | n + 1, value, c :: rest =>
    match digit? c with
    | some d => digits base digit? n (value * base + d) rest
    | none => (value, c :: rest)

theorem length_digits_le (base : Nat) (digit? : Char → Option Nat) (n value : Nat)
    (cs : List Char) : (digits base digit? n value cs).2.length ≤ cs.length := by
  induction cs generalizing n value with
  | nil => cases n <;> simp [digits]
  | cons c rest ih =>
    cases n with
    | zero => simp [digits]
    | succ n =>
      rw [digits]
      split
      · exact Nat.le_succ_of_le (ih ..)
      · simp

def simple? : Char → Option UInt8
  | '\\' => some 0x5c
  | 'a' => some 0x07
  | 'b' => some 0x08
  | 'e' => some 0x1b
  | 'f' => some 0x0c
  | 'n' => some 0x0a
  | 'r' => some 0x0d
  | 't' => some 0x09
  | 'v' => some 0x0b
  | _ => none

/-- Which escapes there are beside the simple ones and octal numbers. -/
structure Rules where
  /-- An octal number is written after a zero. -/
  zeroFirst : Bool := false
  /-- There are hexadecimal numbers. -/
  hex : Bool := true
  /-- The letter `c` ends the output. -/
  halts : Bool := true
  /-- A double quote stands for itself. -/
  quotes : Bool := false
  deriving DecidableEq, Repr

/-- The bytes of an escape without its backslash, what is left, and whether output ends there. -/
def read (rules : Rules) : List Char → List UInt8 × List Char × Bool
  | [] => ([0x5c], [], false)
  | c :: rest =>
    if c = 'c' && rules.halts then ([], [], true)
    else if c = '\"' && rules.quotes then ([0x22], rest, false)
    else if c = 'x' && rules.hex && rest.head?.any (hex? · |>.isSome) then
      let (value, rest) := digits 16 hex? 2 0 rest
      ([UInt8.ofNat value], rest, false)
    else
      match simple? c, octal? c with
      | some b, _ => ([b], rest, false)
      | none, some _ =>
        let (value, rest) :=
          digits 8 octal? 3 0 (if rules.zeroFirst && c = '0' then rest else c :: rest)
        ([UInt8.ofNat value], rest, false)
      | none, none => (0x5c :: bytes (String.ofList [c]), rest, false)

theorem length_read_le (rules : Rules) (cs : List Char) :
    (read rules cs).2.1.length ≤ cs.length := by
  fun_cases read rules cs <;> simp_all <;>
    grind [length_digits_le]

/-- The bytes of a text with escapes, and whether output ends with it. -/
def expand (rules : Rules) : List Char → List UInt8 × Bool
  | [] => ([], false)
  | '\\' :: rest =>
    let piece := read rules rest
    have := length_read_le rules rest
    if piece.2.2 then (piece.1, true)
    else
      let (more, ended) := expand rules piece.2.1
      (piece.1 ++ more, ended)
  | c :: rest =>
    let (more, ended) := expand rules rest
    (bytes (String.ofList [c]) ++ more, ended)
termination_by cs => cs.length

end Escape

end Testbed.Machine
