import Testbed.Record.Basic
import Testbed.Text.Quoted

/-! # Descriptions for inspection

One line for a suite, a case or a record, with the fields that tell it apart.
-/

namespace Testbed

variable {σ : Type}

/-- A name and its fields in braces; the dots stand for what is left out. -/
def describe (name : String) (fields : List (String × String)) : String :=
  let shown := fields.map fun (key, value) => s!"{key}: {value}"
  name ++ " \x7b " ++ ", ".intercalate (shown ++ [".."]) ++ " \x7d"

def Suite.inspect (suite : Suite σ) : String :=
  describe "SuiteMetadata" [
    ("name", Text.quoted suite.name),
    ("area", Text.quoted suite.area),
    ("category", Text.quoted suite.category),
    ("tags", Text.quotedList suite.tags)]

def Case.inspect (c : Case σ) : String :=
  describe "CaseMetadata" [
    ("full_name", Text.quoted c.fullName),
    ("priority", toString c.priority),
    ("attached", toString c.suite.isSome)]

def Record.inspect (r : Record σ) : String :=
  describe "TestResult" [
    ("id", Text.quoted r.id),
    ("name", Text.quoted r.name),
    ("status", r.status.label),
    ("message", Text.quoted r.log)]

end Testbed
