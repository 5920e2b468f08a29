import Testbed.Environment.Facts
import Testbed.Requirement.ItemSet

/-! # Facts that extend others

Keys are kept in order, so a key is there once. What extended facts hold under a
key is what the second ones hold, or else the first ones.
-/

namespace Testbed.Facts

/-- The keys are in increasing order. -/
def Ordered (facts : Facts) : Prop :=
  Ascending (facts.toList.map Prod.fst)

theorem map_fst_insertEntry (key value : String) (entries : List (String × String)) :
    (insertEntry key value entries).map Prod.fst = insertItem key (entries.map Prod.fst) := by
  induction entries with
  | nil => rfl
  | cons entry rest ih =>
    obtain ⟨k, v⟩ := entry
    rw [insertEntry, List.map_cons, insertItem]
    cases hkey : compare key k with
    | lt => rfl
    | eq =>
      rw [Std.LawfulEqOrd.eq_of_compare hkey]
      rfl
    | gt => rw [List.map_cons, ih]

theorem ordered_empty : empty.Ordered :=
  List.Pairwise.nil

theorem Ordered.insert {facts : Facts} (h : facts.Ordered) (key value : String) :
    (facts.insert key value).Ordered := by
  rw [Ordered, Facts.insert, map_fst_insertEntry]
  exact ascending_insertItem key h

theorem find?_extend (facts : Facts) {more : Facts} (h : more.Ordered) (key : String) :
    (facts.extend more).find? key = (more.find? key).or (facts.find? key) := by
  obtain ⟨entries⟩ := more
  rw [extend]
  induction entries generalizing facts with
  | nil => rfl
  | cons entry rest ih =>
    obtain ⟨k, v⟩ := entry
    obtain ⟨hleast, hrest⟩ := List.pairwise_cons.mp h
    rw [List.foldl_cons, ih _ hrest, find?_insert]
    simp only [find?, List.lookup_cons]
    by_cases hkey : key = k
    · subst hkey
      -- The first entry has the key, so none of the others does.
      have hnone : rest.lookup key = none := by
        rw [List.lookup_eq_none_iff]
        intro other hother
        have hless : compare key other.1 = .lt := hleast other.1 (List.mem_map_of_mem hother)
        rw [bne_iff_ne]
        intro hsame
        simp [← hsame] at hless
      simp [hnone]
    · have hbeq : (key == k) = false := beq_eq_false_iff_ne.mpr hkey
      simp [hkey, hbeq]

end Testbed.Facts
