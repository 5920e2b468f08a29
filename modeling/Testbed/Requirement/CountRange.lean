import Testbed.Requirement.Finding
import Testbed.Requirement.RuleError

/-! # Ranges of counts

Inclusive ranges, open at the upper end when they have no maximum.
-/

namespace Testbed

structure CountRange where
  min : UInt32
  max : Option UInt32
  deriving DecidableEq, Repr

namespace CountRange

def atLeast (min : UInt32) : CountRange :=
  ⟨min, none⟩

def exactly (n : UInt32) : CountRange :=
  ⟨n, some n⟩

def between (min max : UInt32) : Except RuleError CountRange :=
  if max < min then .error (.emptyRange min max) else .ok ⟨min, some max⟩

instance : Inhabited CountRange := ⟨atLeast 1⟩

def contains (r : CountRange) (n : UInt32) : Bool :=
  r.min ≤ n && r.max.all (n ≤ ·)

def text (r : CountRange) : String :=
  match r.max with
  | some max => s!"[{r.min}, {max}]"
  | none => s!"[{r.min}, inf)"

def check (r : CountRange) (n : UInt32) : Finding :=
  if r.contains n then .ok else .failed s!"{n} is not in range {r.text}"

def json (r : CountRange) : Json :=
  .obj <| ("min", .int r.min.toNat) ::
    Json.field? "max" (r.max.map fun max => .int max.toNat)

theorem contains_iff {r : CountRange} {n : UInt32} :
    r.contains n = true ↔ r.min ≤ n ∧ ∀ max, r.max = some max → n ≤ max := by
  cases h : r.max <;> simp [contains, h]

@[simp] theorem met_check (r : CountRange) (n : UInt32) : (r.check n).met = r.contains n := by
  unfold check
  split <;> simp_all [Finding.ok, Finding.failed, Finding.add]

end CountRange

end Testbed
