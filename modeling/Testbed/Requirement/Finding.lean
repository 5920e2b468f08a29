import Testbed.Text.Json

/-! # Findings

What a check of a requirement found: whether it is met, and the reasons why not.
Findings of parts are merged into the finding of the whole under a label that
says where each reason comes from.
-/

namespace Testbed

structure Finding where
  met : Bool
  reasons : List String
  deriving DecidableEq, Repr, Inhabited

namespace Finding

def ok : Finding :=
  ⟨true, []⟩

/-- A recorded reason always means that the requirement is not met. -/
def add (f : Finding) (reason : String) : Finding :=
  ⟨false, f.reasons ++ [reason]⟩

def failed (reason : String) : Finding :=
  ok.add reason

/-- Puts a label in front of a reason; an empty label changes nothing. -/
def labelled (label reason : String) : String :=
  if label.isEmpty then reason else s!"{label}: {reason}"

/-- Appends the reasons of a part under a label. -/
def merge (f part : Finding) (label : String) : Finding :=
  ⟨f.met && part.met, f.reasons ++ part.reasons.map (labelled label)⟩

def explain (f : Finding) : String :=
  "; ".intercalate f.reasons

def text (f : Finding) : String :=
  if f.met then "ok" else s!"failed: {f.explain}"

def json (f : Finding) : Json :=
  .obj <| ("result", .bool f.met) ::
    Json.field? "reasons" (if f.reasons.isEmpty then none else some (Json.strs f.reasons))

@[simp] theorem labelled_empty (reason : String) : labelled "" reason = reason := by
  simp [labelled]

@[simp] theorem met_merge (f part : Finding) (label : String) :
    (f.merge part label).met = (f.met && part.met) := rfl

@[simp] theorem reasons_merge (f part : Finding) (label : String) :
    (f.merge part label).reasons = f.reasons ++ part.reasons.map (labelled label) := rfl

@[simp] theorem merge_ok (f : Finding) (label : String) : f.merge ok label = f := by
  simp [merge, ok]

end Finding

end Testbed
