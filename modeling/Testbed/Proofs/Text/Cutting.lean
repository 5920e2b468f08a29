import Mathlib.Data.List.TakeWhile
import Testbed.Text.Blank
import Testbed.Text.Lines

/-! # Cutting texts

What is stripped from the ends of a text may as well not have been there. A line
feed ends the line before it, and what follows has lines of its own.
-/

namespace Testbed.Text

section Strip

variable {p : Char → Bool}

theorem strip_append_left {left : List Char} (hleft : ∀ c ∈ left, p c = true) (cs : List Char) :
    strip p (left ++ cs) = strip p cs := by
  rw [strip, List.dropWhile_append_of_pos hleft, strip]

theorem strip_append_right (cs : List Char) {right : List Char}
    (hright : ∀ c ∈ right, p c = true) : strip p (cs ++ right) = strip p cs := by
  rw [strip, strip, List.dropWhile_append]
  have hreverse : ∀ c ∈ right.reverse, p c = true := fun c hc => hright c (List.mem_reverse.mp hc)
  -- If nothing of `cs` is left, `right` is stripped from the left already.
  cases hcs : cs.dropWhile p with
  | nil =>
    have hnone : (right ++ []).dropWhile p = [] := List.dropWhile_append_of_pos hright
    rw [List.append_nil] at hnone
    simp [hnone]
  | cons c rest =>
    rw [if_neg (by simp), List.reverse_append, List.dropWhile_append_of_pos hreverse]

theorem strip_append {left right : List Char} (hleft : ∀ c ∈ left, p c = true) (cs : List Char)
    (hright : ∀ c ∈ right, p c = true) : strip p (left ++ cs ++ right) = strip p cs := by
  rw [strip_append_right _ hright, strip_append_left hleft]

/-- A text between two characters that are not stripped stays as it is. -/
theorem strip_between {a b : Char} (ha : p a = false) (cs : List Char) (hb : p b = false) :
    strip p (a :: cs ++ [b]) = a :: cs ++ [b] := by
  rw [strip, List.cons_append, List.dropWhile_cons_of_neg (by simp [ha]), ← List.cons_append,
    List.reverse_append, List.reverse_singleton, List.singleton_append,
    List.dropWhile_cons_of_neg (by simp [hb]), List.reverse_cons, List.reverse_reverse]

end Strip

/-- The word comes first behind any blanks and goes up to the next blank. It is empty only if there
is nothing but blanks. -/
def FirstWord (cs word : List Char) : Prop :=
  ∃ blanks rest, cs = blanks ++ (word ++ rest) ∧ (∀ c ∈ blanks, isBlank c = true) ∧
    (∀ c ∈ word, isBlank c = false) ∧ (∀ c ∈ rest.head?, isBlank c = true) ∧
    (word = [] → rest = [])

theorem firstWord_spec (cs : List Char) : FirstWord cs (firstWord cs) := by
  have hword : ∀ c ∈ firstWord cs, isBlank c = false := by
    intro c hc
    simpa using List.mem_takeWhile_imp hc
  refine ⟨cs.takeWhile isBlank, (cs.dropWhile isBlank).dropWhile fun c => !isBlank c, ?_,
    fun c hc => List.mem_takeWhile_imp hc, hword, fun c hc => ?_, fun hnil => ?_⟩
  · rw [firstWord, List.takeWhile_append_dropWhile, List.takeWhile_append_dropWhile]
  · have hnot := List.head?_dropWhile_not (fun c => !isBlank c) (cs.dropWhile isBlank)
    rw [Option.mem_def.mp hc] at hnot
    simpa using hnot
  · -- Behind the blanks a word starts, unless there is nothing.
    rw [firstWord] at hnil
    cases hrest : cs.dropWhile isBlank with
    | nil => rfl
    | cons c rest =>
      have hnot := List.head?_dropWhile_not isBlank cs
      rw [hrest, List.head?_cons] at hnot
      rw [hrest, List.takeWhile_cons_of_pos (by simpa using hnot)] at hnil
      cases hnil

theorem lines_cons {c : Char} {cs : List Char} (hc : c ≠ '\n')
    (hreturn : ¬ (c = '\r' ∧ cs.head? = some '\n')) :
    lines (c :: cs) =
      match lines cs with
      | [] => [[c]]
      | line :: more => (c :: line) :: more := by
  rw [lines.eq_def]
  split
  · rename_i heq
    cases heq
  · rename_i rest heq
    obtain ⟨rfl, rfl⟩ := List.cons.inj heq
    exact absurd ⟨rfl, rfl⟩ hreturn
  · rename_i heq
    exact absurd (List.cons.inj heq).1 hc
  · rename_i heq
    obtain ⟨rfl, rfl⟩ := List.cons.inj heq
    rfl

/-- A line feed ends a line, which loses a carriage return at its end. -/
theorem exists_lines_append_feed {line : List Char} (hline : '\n' ∉ line) (rest : List Char) :
    ∃ kept, (line = kept ∨ line = kept ++ ['\r']) ∧
      lines (line ++ '\n' :: rest) = kept :: lines rest := by
  induction line with
  | nil => exact ⟨[], Or.inl rfl, lines_feed rest⟩
  | cons c line ih =>
    rw [List.mem_cons, not_or] at hline
    -- Only a carriage return right before the line feed is lost; any other one stays.
    by_cases hreturn : c = '\r' ∧ line = []
    · obtain ⟨rfl, rfl⟩ := hreturn
      exact ⟨[], Or.inr rfl, by rw [List.cons_append, List.nil_append, lines]⟩
    · obtain ⟨kept, hkept, hlines⟩ := ih hline.2
      refine ⟨c :: kept, ?_, ?_⟩
      · exact hkept.imp (congrArg (c :: ·)) (congrArg (c :: ·))
      · rw [List.cons_append, lines_cons (Ne.symm hline.1), hlines]
        rintro ⟨rfl, hhead⟩
        cases line with
        | nil => exact hreturn ⟨rfl, rfl⟩
        | cons d line =>
          obtain rfl := Option.some.inj hhead
          exact hline.2 List.mem_cons_self

theorem lines_of_unbroken {line : List Char} (hline : '\n' ∉ line) (hne : line ≠ []) :
    lines line = [line] := by
  induction line with
  | nil => exact absurd rfl hne
  | cons c line ih =>
    rw [List.mem_cons, not_or] at hline
    have hhead : line.head? ≠ some '\n' := fun h => hline.2 (List.mem_of_head? h)
    rw [lines_cons (Ne.symm hline.1) fun h => hhead h.2]
    cases line with
    | nil => rfl
    | cons d line => rw [ih hline.2 (List.cons_ne_nil d line)]

end Testbed.Text
