import Testbed.Machine.Escape

/-! # Echoing arguments -/

namespace Testbed.Machine

namespace Echo

/-- Leading arguments made of a hyphen and the letters `n`, `e` and `E` alone. -/
def isOption (argument : String) : Bool :=
  match argument.toList with
  | '-' :: c :: rest => (c :: rest).all fun c => c = 'n' || c = 'e' || c = 'E'
  | _ => false

/-- Whether the last option letter about escapes turns them on. -/
def escapes (options : List String) : Bool :=
  ((options.flatMap String.toList).filter fun c => c = 'e' || c = 'E').getLast? = some 'e'

end Echo

/-- Writes its arguments, parted by blanks, and a line feed. -/
def echo : Program := fun c =>
  let options := c.arguments.takeWhile Echo.isOption
  let text := " ".intercalate (c.arguments.dropWhile Echo.isOption)
  let feed : List UInt8 := if options.any (·.contains 'n') then [] else [0x0a]
  if Echo.escapes options then
    let (written, ended) := Escape.expand { zeroFirst := true } text.toList
    { stdout := if ended then written else written ++ feed }
  else { stdout := bytes text ++ feed }

end Testbed.Machine
