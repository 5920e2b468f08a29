import Testbed.Registry.Basic
import Testbed.Text.Search

/-! # Selections

Criteria for cases. A criterion that is not given accepts everything; a list of
names accepts any of them.
-/

namespace Testbed

variable {σ : Type}

structure Selection where
  /-- A part of the full name, or all of it if `exact` is set. -/
  filter : Option String := none
  exact : Bool := false
  areas : List String := []
  categories : List String := []
  tags : List String := []
  maxPriority : Option UInt32 := none
  deriving DecidableEq, Repr, Inhabited

namespace Selection

def matchesName (s : Selection) (c : Case σ) : Bool :=
  s.filter.all fun text =>
    if s.exact then c.fullName = text
    else Text.occursIn text.toList c.fullName.toList

def admits (s : Selection) (c : Case σ) : Bool :=
  s.matchesName c &&
    (s.areas.isEmpty || s.areas.contains c.area) &&
    (s.categories.isEmpty || s.categories.contains c.category) &&
    (s.tags.isEmpty || c.tags.any s.tags.contains) &&
    s.maxPriority.all (c.priority ≤ ·)

/-- The cases that are admitted, in the order in which they were registered. -/
def select (s : Selection) (catalogue : Catalogue σ) : List (Case σ) :=
  catalogue.cases.filter s.admits

end Selection

end Testbed
