/-! # Fractions in decimal notation

Fractions are kept exactly, as quotients of whole numbers, and written in decimal
notation with so many places, where a half goes to the even neighbour.
-/

namespace Testbed.Machine

/-- The power of ten; the digits of a number are moved by multiplying it with one. -/
def tenTo (n : Nat) : Nat :=
  Nat.pow 10 n

/-- The fraction of two natural numbers, with a sign. -/
structure Fraction where
  negative : Bool := false
  numerator : Nat
  denominator : Nat := 1
  deriving DecidableEq, Repr

namespace Fraction

/-- The quotient, rounded to the nearest whole number, a half to the even one. -/
def roundDiv (a b : Nat) : Nat :=
  let q := a / b
  let twice := 2 * (a % b)
  if b < twice || twice = b && q % 2 = 1 then q + 1 else q

/-- The power of two, positive or not, whose multiples below twice a bound reach a quotient. The
first number bounds the steps. -/
def exponent (bound : Nat) : Nat → Nat → Nat → Int → Int
  | 0, _, _, e => e
  | n + 1, a, b, e =>
    if a = 0 then e
    else if a < bound * b then exponent bound n (2 * a) b (e - 1)
    else if 2 * bound * b ≤ a then exponent bound n a (2 * b) (e + 1)
    else e

/-- The nearest fraction that has so many significant bits. -/
def toBits (count : Nat) (f : Fraction) : Fraction :=
  let bound := 1 <<< (count - 1)
  let steps := 2 * (f.numerator.log2 + f.denominator.log2 + count + 2)
  let e := exponent bound steps f.numerator f.denominator 0
  if 0 ≤ e then
    let unit := 1 <<< e.toNat
    { f with numerator := roundDiv f.numerator (f.denominator * unit) * unit, denominator := 1 }
  else
    let unit := 1 <<< e.natAbs
    { f with numerator := roundDiv (f.numerator * unit) f.denominator, denominator := unit }

/-- The decimal digits of a number, at least so many. -/
def padded (count n : Nat) : String :=
  let digits := toString n
  String.ofList (List.replicate (count - digits.length) '0') ++ digits

/-- The digits without a sign, with so many places behind the point. -/
def fixed (places : Nat) (f : Fraction) : String :=
  let all := padded (places + 1) (roundDiv (f.numerator * tenTo places) f.denominator)
  let whole := all.toList.take (all.length - places)
  let rest := all.toList.drop (all.length - places)
  String.ofList (if places = 0 then whole else whole ++ '.' :: rest)

/-- The exponent of the first significant digit. The number bounds the steps. -/
def magnitude : Nat → Nat → Nat → Int → Int
  | 0, _, _, e => e
  | n + 1, a, b, e =>
    if a = 0 then 0
    else if a < b then magnitude n (10 * a) b (e - 1)
    else if 10 * b ≤ a then magnitude n a (10 * b) (e + 1)
    else e

/-- The fraction by a power of ten, positive or not. -/
def shifted (f : Fraction) (e : Int) : Fraction :=
  if 0 ≤ e then { f with numerator := f.numerator * tenTo e.toNat }
  else { f with denominator := f.denominator * tenTo e.natAbs }

/-- The exponent of the first digit when there are so many places behind it. -/
def roundedMagnitude (places : Nat) (f : Fraction) : Int :=
  let e := magnitude (f.numerator.log2 + f.denominator.log2 + 2) f.numerator f.denominator 0
  let g := f.shifted (-e)
  if roundDiv (g.numerator * tenTo places) g.denominator ≥ tenTo (places + 1) then e + 1 else e

def exponentText (e : Int) : String :=
  (if e < 0 then "e-" else "e+") ++ padded 2 e.natAbs

/-- The digits without a sign, one in front of the point and so many behind it. -/
def scientific (places : Nat) (f : Fraction) : String :=
  let e := roundedMagnitude places f
  (f.shifted (-e)).fixed places ++ exponentText e

/-- Drops the zeros at the end of the places, and the point if nothing is left behind it. -/
def dropZeros (s : String) : String :=
  if s.contains '.' then
    let cs := s.toList.reverse.dropWhile (· = '0')
    String.ofList (if cs.head? = some '.' then cs.tail else cs).reverse
  else s

/-- So many significant digits, without zeros at the end, in the notation that suits the size. -/
def general (digits : Nat) (f : Fraction) : String :=
  let digits := max digits 1
  let e := roundedMagnitude (digits - 1) f
  if -4 ≤ e && e < digits then dropZeros (f.fixed (digits - 1 - e).toNat)
  else dropZeros ((f.shifted (-e)).fixed (digits - 1)) ++ exponentText e

end Fraction

/-- Reads a number in decimal notation, as far as it goes, and what is left. -/
def readFraction (cs : List Char) : Option (Fraction × List Char) :=
  let (negative, cs) := match cs with
    | '-' :: rest => (true, rest)
    | '+' :: rest => (false, rest)
    | cs => (false, cs)
  let whole := cs.takeWhile Char.isDigit
  let rest := cs.drop whole.length
  let (places, rest) := match rest with
    | '.' :: rest => (rest.takeWhile Char.isDigit, rest.dropWhile Char.isDigit)
    | rest => ([], rest)
  if (whole ++ places).isEmpty then none
  else
    let value := fun (cs : List Char) => cs.foldl (fun n c => 10 * n + (c.toNat - '0'.toNat)) 0
    let f : Fraction :=
      { negative, numerator := value (whole ++ places), denominator := tenTo places.length }
    match rest with
    | e :: more =>
      if e = 'e' || e = 'E' then
        let (down, digits) := match more with
          | '-' :: digits => (true, digits)
          | '+' :: digits => (false, digits)
          | digits => (false, digits)
        let power := digits.takeWhile Char.isDigit
        if power.isEmpty then some (f, rest)
        else
          let n : Int := min (value power) 5000
          some (f.shifted (if down then -n else n), digits.drop power.length)
      else some (f, rest)
    | [] => some (f, [])

end Testbed.Machine
