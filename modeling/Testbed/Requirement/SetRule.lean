import Testbed.Requirement.Finding
import Testbed.Requirement.ItemSet
import Testbed.Requirement.RuleError

/-! # Rules on sets

A rule says how what is offered must relate to a set of items: every item must
be offered, some item must be, or none may be. A rule with no items accepts
everything.
-/

namespace Testbed

inductive SetRule.Mode where
  | everyItem
  | someItem
  | noItem
  deriving DecidableEq, Repr

structure SetRule (α : Type) [Ord α] where
  mode : SetRule.Mode
  items : ItemSet α
  deriving DecidableEq

namespace SetRule

variable {α : Type} [Ord α]

def allows (rule : SetRule α) : Bool :=
  rule.mode ≠ .noItem

def text [ToString α] (rule : SetRule α) : String :=
  (if rule.allows then "allow[" else "deny[") ++ rule.items.joined ++ "]"

def json (item : α → Json) (rule : SetRule α) : Json :=
  .obj [
    ("is_allow_set", .bool rule.allows),
    ("matching", .str (if rule.mode = .everyItem then "all" else "any")),
    ("items", .arr (rule.items.toList.map item))]

variable [Std.TransOrd α]

/-- Every listed item must be offered. -/
def requireAll (items : List α) : SetRule α :=
  ⟨.everyItem, .ofList items⟩

/-- At least one listed item must be offered. -/
def requireAny (items : List α) : SetRule α :=
  ⟨.someItem, .ofList items⟩

/-- No listed item may be offered. -/
def deny (items : List α) : SetRule α :=
  ⟨.noItem, .ofList items⟩

/-- The rule for a list of supported and a list of unsupported items. No items at all mean no
rule, and only one of the two lists may have items. -/
def ofLists (supported unsupported : List α) (what : String) :
    Except RuleError (Option (SetRule α)) :=
  match supported, unsupported with
  | [], [] => .ok none
  | _ :: _, [] => .ok (some (requireAny supported))
  | [], _ :: _ => .ok (some (deny unsupported))
  | _ :: _, _ :: _ => .error (.bothListed what)

/-- A failed finding that lists the items at fault, unless there are none. -/
def blame [ToString α] (reason : String) : List α → Finding
  | [] => .ok
  | items =>
    let listed := ", ".intercalate (items.map toString)
    .failed s!"{reason} [{listed}]"

/-- Compares what is offered, in any order and with any repetition, with the rule. -/
def check [ToString α] (rule : SetRule α) (offered : List α) : Finding :=
  let offer := ItemSet.ofList offered
  if rule.items.isEmpty then .ok
  else
    match rule.mode with
    | .noItem => blame "requirement excludes" (offer.toList.filter rule.items.contains)
    | .everyItem =>
      blame "capability doesn't support" (rule.items.toList.filter fun x => !offer.contains x)
    | .someItem =>
      if offer.toList.any rule.items.contains then .ok
      else .failed s!"capability [{offer.joined}] matches none of [{rule.items.joined}]"

end SetRule

end Testbed
