import Testbed.Text.Json

/-! # Facts

Texts by key, in increasing order of the keys.
-/

namespace Testbed

structure Facts where
  toList : List (String × String)
  deriving DecidableEq, Repr

namespace Facts

def empty : Facts :=
  ⟨[]⟩

instance : Inhabited Facts := ⟨empty⟩

def insertEntry (key value : String) : List (String × String) → List (String × String)
  | [] => [(key, value)]
  | (k, v) :: rest =>
    match compare key k with
    | .lt => (key, value) :: (k, v) :: rest
    | .eq => (key, value) :: rest
    | .gt => (k, v) :: insertEntry key value rest

/-- A value given before under the same key is replaced. -/
def insert (facts : Facts) (key value : String) : Facts :=
  ⟨insertEntry key value facts.toList⟩

def ofList (entries : List (String × String)) : Facts :=
  entries.foldl (fun facts (key, value) => facts.insert key value) empty

def find? (facts : Facts) (key : String) : Option String :=
  facts.toList.lookup key

/-- The facts of both; where both have a key, the second one's value holds. -/
def extend (facts more : Facts) : Facts :=
  more.toList.foldl (fun facts (key, value) => facts.insert key value) facts

def json (facts : Facts) : Json :=
  .obj (facts.toList.map fun (key, value) => (key, .str value))

theorem find?_insert (facts : Facts) (key value other : String) :
    (facts.insert key value).find? other =
      if other = key then some value else facts.find? other := by
  unfold insert find?
  generalize facts.toList = entries
  induction entries with
  | nil => simp only [insertEntry, List.lookup_cons]; grind
  | cons entry rest ih =>
    obtain ⟨k, v⟩ := entry
    rw [insertEntry]
    split
    · simp only [List.lookup_cons]; grind
    · rename_i h
      have := Std.LawfulEqOrd.eq_of_compare h
      simp only [List.lookup_cons]; grind
    · rename_i h
      have hne : key ≠ k := by
        rintro rfl
        simp at h
      simp only [List.lookup_cons, ih]; grind

end Facts

end Testbed
