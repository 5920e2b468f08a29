/-! # Lines

A line ends at a line feed, together with one carriage return right before it.
A last line without a line feed counts, and keeps its carriage return.
-/

namespace Testbed.Text

/-- The lines of a text, without their ends. -/
def lines : List Char → List (List Char)
  | [] => []
  | '\r' :: '\n' :: rest => [] :: lines rest
  | '\n' :: rest => [] :: lines rest
  | c :: rest =>
    match lines rest with
    | [] => [[c]]
    | line :: more => (c :: line) :: more

/-- The last line of a text, empty if it has none. -/
def lastLine (s : String) : String :=
  String.ofList ((lines s.toList).getLast?.getD [])

@[simp] theorem lines_nil : lines [] = [] := rfl

@[simp] theorem lines_feed (rest : List Char) : lines ('\n' :: rest) = [] :: lines rest := by
  rw [lines]

end Testbed.Text
