/-! # Troubles

A failure of something outside the program, together with what was being done
when it happened, outermost first.
-/

namespace Testbed

structure Trouble where
  causes : List String
  deriving DecidableEq, Repr, Inhabited

namespace Trouble

def message (t : Trouble) : String :=
  ": ".intercalate t.causes

/-- Says what was being done. -/
def within (doing : String) (t : Trouble) : Trouble :=
  ⟨doing :: t.causes⟩

end Trouble

end Testbed
