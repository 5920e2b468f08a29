/-! # Contradictory rules -/

namespace Testbed

/-- Why a range or a set rule cannot be made. -/
inductive RuleError where
  /-- Something was listed both as supported and as unsupported. -/
  | bothListed (what : String)
  | emptyRange (min max : UInt32)
  deriving DecidableEq, Repr

def RuleError.message : RuleError → String
  | bothListed what => s!"cannot set both supported and unsupported {what}"
  | emptyRange min max => s!"invalid range: min {min} is greater than max {max}"

end Testbed
