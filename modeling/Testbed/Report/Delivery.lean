import Testbed.Report.Basic
import Testbed.Text.Lines

/-! # Delivering a report

A report is printed, as JSON or as one line for each record, and before that may
be written to a file.
-/

namespace Testbed

structure Delivery where
  /-- Where to write the report, and its text. -/
  file : Option (String × String)
  /-- What to say about a report that has been written. -/
  note : String
  output : String
  exitCode : Nat
  deriving DecidableEq, Repr

namespace Report

/-- The JSON text and the line feed that ends it. -/
def text (r : Report) : String :=
  r.json.render ++ "\n"

/-- Status and name, and the last line of the log if there is one. -/
def resultLine (r : Result) : String :=
  let line := s!"{r.status.name}\t{r.name}"
  if r.log.isEmpty then line else s!"{line}\t{Text.lastLine r.log}"

def plainText (r : Report) : String :=
  String.join <|
    (r.results.map resultLine ++ [s!"summary: {r.summary.text r.exitCode}"]).map (· ++ "\n")

def delivery (r : Report) (path : Option String) (json : Bool) : Delivery where
  file := path.map fun path => (path, r.text)
  note := s!"lisa: {r.summary.text r.exitCode}"
  output := if json then r.text else r.plainText
  exitCode := r.exitCode

end Report

end Testbed
