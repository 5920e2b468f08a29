import Testbed.Report.Basic

/-! # Listings of cases -/

namespace Testbed.Listing

variable {σ : Type}

def schema : String :=
  "lisa.list.report@0.1.0"

def caseJson (c : Case σ) : Json :=
  .obj [
    ("name", .str c.name),
    ("full_name", .str c.fullName),
    ("suite", .str c.suiteName),
    ("area", .str c.area),
    ("category", .str c.category),
    ("tags", Json.strs c.tags),
    ("priority", .int c.priority.toNat),
    ("description", .str c.description)]

def json (cases : List (Case σ)) : Json :=
  .obj [
    ("schema_version", .str schema),
    ("tool", Tool.current.json),
    ("cases", .arr (cases.map caseJson))]

/-- The columns of one case, parted by tabs. -/
def line (c : Case σ) : String :=
  "\t".intercalate
    [c.name, c.suiteName, c.area, c.category, ",".intercalate c.tags, toString c.priority]

end Testbed.Listing
