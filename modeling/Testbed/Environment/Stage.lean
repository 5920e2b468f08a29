import Testbed.Text.Blank
import Testbed.Text.Quoted

/-! # Stages of an environment

An environment is prepared, deployed and connected in this order, and deleted at
the end. A later stage serves every need for an earlier one, unless it is the end.
-/

namespace Testbed

inductive Stage where
  | new
  | prepared
  | deployed
  | connected
  | deleted
  deriving DecidableEq, Repr, Inhabited

namespace Stage

def all : List Stage :=
  [new, prepared, deployed, connected, deleted]

def name : Stage → String
  | new => "new"
  | prepared => "prepared"
  | deployed => "deployed"
  | connected => "connected"
  | deleted => "deleted"

instance : ToString Stage := ⟨name⟩

def satisfies (stage required : Stage) : Bool :=
  stage ≠ deleted && required.ctorIdx ≤ stage.ctorIdx

def ofName? (name : String) : Option Stage :=
  all.find? fun stage => stage.name = name

structure ParseError where
  text : String

def ParseError.message (e : ParseError) : String :=
  let expected := ", ".intercalate (all.map name)
  s!"invalid environment status {Text.quoted e.text} (expected one of: {expected})"

/-- Reads a name with blanks around it, in any mixture of ASCII upper and lower case. -/
def read (text : String) : Except ParseError Stage :=
  let word := (Text.trim text).toLower
  match ofName? word with
  | some stage => .ok stage
  | none => .error ⟨word⟩

theorem not_satisfies_deleted (required : Stage) : deleted.satisfies required = false := rfl

theorem deleted_not_satisfied (stage : Stage) : stage.satisfies deleted = false := by
  cases stage <;> rfl

end Stage

end Testbed
