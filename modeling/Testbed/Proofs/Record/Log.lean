import Testbed.Record.Basic

/-! # Logs

A log is made of texts, one to a line. One more text goes on a line of its own
behind the others, so what a log was is always a beginning of what it becomes.
-/

namespace Testbed

/-- Texts in a row, one to a line; an empty text is not a line. -/
def joined (texts : List String) : String :=
  "\n".intercalate (texts.filter (· ≠ ""))

theorem intercalate_ne_empty (separator : String) {lines : List String}
    (hlines : ∀ line ∈ lines, line ≠ "") (hne : lines ≠ []) :
    separator.intercalate lines ≠ "" := by
  obtain ⟨line, rest, rfl⟩ := List.exists_cons_of_ne_nil hne
  have hline : line ≠ "" := hlines line List.mem_cons_self
  cases rest with
  | nil => simpa using hline
  | cons => simp [String.intercalate_cons_cons, hline]

theorem appendLine_joined (texts : List String) (text : String) :
    appendLine (joined texts) text = joined (texts ++ [text]) := by
  by_cases htext : text = ""
  · simp [appendLine, joined, htext]
  · have hlines : ∀ line ∈ texts.filter (· ≠ ""), line ≠ "" := fun line hline =>
      of_decide_eq_true (List.mem_filter.mp hline).2
    have hfilter : (texts ++ [text]).filter (· ≠ "") = texts.filter (· ≠ "") ++ [text] := by
      simp [htext]
    rw [joined, joined, hfilter]
    generalize texts.filter (· ≠ "") = lines at hlines
    by_cases hnil : lines = []
    · simp [hnil, appendLine]
    · have hne := intercalate_ne_empty "\n" hlines hnil
      rw [String.intercalate_append_of_ne_nil hnil (List.cons_ne_nil _ _)]
      simp [appendLine, htext, hne, toString]

example : joined ["", "a", "", "b\n", "c"] = "a\nb\n\nc" := by decide

theorem prefix_appendLine (log text : String) : log.toList <+: (appendLine log text).toList := by
  rw [appendLine]
  split
  · exact List.prefix_rfl
  · split
    · rename_i hlog
      simp [String.isEmpty_iff.mp hlog]
    · simp [toString]

theorem appendLine_eq (log text : String) : appendLine log text = joined [log, text] := by
  have hlog : joined [log] = log := by
    by_cases hlog : log = "" <;> simp [joined, hlog]
  rw [← hlog, appendLine_joined, hlog]
  rfl

end Testbed
